import HelpCovid.Views.Catalogue

/-!
# The file of translations

`generate-i18n.py` loads the PO file it wrote before and writes it again. The
loader goes by words and quotes of single lines: a line with `msgid` in it names
an identifier, whatever it begins with, and the text of a translation is what
remains between the quotes at both ends, without subscript digits.
-/

namespace HelpCovid.Views

open CText ChunkMap Template Web

/-! ## The loader -/

/-- `__strip_serial_number`: all subscript digits are dropped. -/
def isSubscript (c : Char) : Bool := 0x2080 ≤ c.toNat && c.toNat ≤ 0x2089

def stripSerialNumber (msgstr : Text) : Text := msgstr.filter fun c => !isSubscript c

/-- `line.split(key)[1].strip().strip('"')` -/
def quotedText (key line : Text) : Except PyError Text := do
  let text ← index (PyText.split key line) 1
  return PyText.stripChar '"' (PyText.strip text)

/-- The variables of `__load_messages`. -/
structure Loading where
  messages : StdMap Text Text
  msgid : Option Text

/-- One line of the PO file. -/
def loadLine (st : Loading) (line : Text) : Except PyError Loading :=
  if (strstr "msgid".toList line).isSome then do
    let msgid ← quotedText "msgid ".toList line
    return { st with msgid := some msgid }
  else match st.msgid.filter fun msgid => !msgid.isEmpty with
    | none => .ok st
    | some msgid =>
      if (strstr "msgstr".toList line).isSome then do
        let msgstr ← quotedText "msgstr ".toList line
        return ⟨st.messages.insert msgid (stripSerialNumber msgstr), none⟩
      else .ok st

/-- `__load_messages`, for a file that is there. -/
def loadMessages (contents : Text) : Except PyError (StdMap Text Text) := do
  let st ← (sourceLines contents).foldlM loadLine ⟨∅, none⟩
  return st.messages

/-! ## The writer -/

/-- What stands before an identifier. -/
def msgidOpening : Text := "msgid \"".toList

/-- What stands before a translation. -/
def msgstrOpening : Text := "msgstr \"".toList

/-- `"msgid \"{0}\"\nmsgstr \"{1}{2}\"\n\n"`, for each entry. -/
def writeEntries (po : List PoEntry) : Text :=
  po.flatMap fun e =>
    msgidOpening ++ e.msgid ++ ['"', '\n'] ++ msgstrOpening ++ e.msgstr ++ ['"', '\n', '\n']

/-- The entries for a dictionary. -/
def poEntries (subscript : Bool) (messages : StdMap Text Text) : List PoEntry :=
  messages.toList.zipIdx.map fun item =>
    ⟨item.1.1, generateSerialNumber subscript (item.2 + 1) messages.toList.length ++ item.1.2⟩

/-- What `run` writes for a dictionary. -/
def writeMessages (subscript : Bool) (messages : StdMap Text Text) : Text :=
  writeEntries (poEntries subscript messages)

/-- The dictionary with an empty translation for each new identifier. -/
def addMsgids (messages : StdMap Text Text) (msgids : List Text) : StdMap Text Text :=
  StdMap.insertAll messages (msgids.map fun msgid => (msgid, []))

theorem run_eq (subscript : Bool) (messages : StdMap Text Text) (htmlFiles : List Text) :
    run subscript messages htmlFiles =
      (scanMsgidsFromHtml htmlFiles).map fun msgids =>
        poEntries subscript (addMsgids messages msgids) := rfl

/-- The lines of an entry. -/
def msgidLine (id : Text) : Text := msgidOpening ++ (id ++ ['"'])

def msgstrLine (msgstr : Text) : Text := msgstrOpening ++ (msgstr ++ ['"'])

def entryLines (e : PoEntry) : List Text := [msgidLine e.msgid, msgstrLine e.msgstr, []]

theorem unlines_entryLines (e : PoEntry) :
    unlines (entryLines e) =
      msgidOpening ++ e.msgid ++ ['"', '\n'] ++ msgstrOpening ++ e.msgstr ++ ['"', '\n', '\n'] := by
  simp [unlines, entryLines, msgidLine, msgstrLine]

theorem writeEntries_eq (po : List PoEntry) : writeEntries po = unlines (po.flatMap entryLines) := by
  induction po with
  | nil => rfl
  | cons e po ih =>
    rw [List.flatMap_cons, unlines_append, ← ih, unlines_entryLines, writeEntries,
      List.flatMap_cons, ← writeEntries]

/-! ## Lines with translations -/

/-- The translation that is loaded for what stands between the quotes. -/
def loadedText (msgstr : Text) : Text :=
  stripSerialNumber (PyText.stripChar '"' (PyText.strip
    (PyText.upTo "msgstr ".toList ('"' :: (msgstr ++ ['"'])))))

theorem strip_quoted (s : Text) : PyText.strip ('"' :: (s ++ ['"'])) = '"' :: (s ++ ['"']) := by
  apply PyText.strip_eq_self
  · simp [PyText.isSpace]
  · rw [← List.cons_append, List.getLast?_concat]
    simp [PyText.isSpace]

/-- The text between the quotes after a key at the start of a line. -/
theorem quotedText_append {key : Text} (hne : key ≠ []) (s : Text) :
    quotedText key (key ++ s) =
      .ok (PyText.stripChar '"' (PyText.strip (PyText.upTo key s))) := by
  have hstart : strstr key (key ++ s) = some 0 := strstr_of_start (List.prefix_append _ _)
  have hsecond := PyText.getElem?_one_split hne (key ++ s)
  rw [hstart, Option.map_some, Nat.zero_add, List.drop_left] at hsecond
  simp only [quotedText, index, hsecond]
  rfl

/-- The line of an identifier is understood. -/
theorem loadLine_msgidLine {id : Text} (hid : IsName id) (st : Loading) :
    loadLine st (msgidLine id) = .ok { st with msgid := some id } := by
  have hhas : (strstr "msgid".toList (msgidLine id)).isSome = true :=
    (strstr_isSome_iff (by decide)).mpr ⟨[], ' ' :: '"' :: (id ++ ['"']), rfl⟩
  have hquote : '"' ∉ id := notMem_of_isNameChar hid.chars (by decide)
  have hblank : ' ' ∉ '"' :: (id ++ ['"']) := by
    have hnot : ' ' ∉ id := notMem_of_isNameChar hid.chars (by decide)
    simp [hnot]
  have hupTo : PyText.upTo "msgid ".toList ('"' :: (id ++ ['"'])) = '"' :: (id ++ ['"']) := by
    rw [PyText.upTo, strstr_eq_none_of_notMem (x := ' ') (by decide) hblank]
  have hself : PyText.stripChar '"' id = id := by
    rw [PyText.stripChar_eq_self_iff]
    exact ⟨fun h => hquote (List.mem_of_head? h), fun h => hquote (List.mem_of_getLast? h)⟩
  have hquoted : quotedText "msgid ".toList (msgidLine id) = .ok id := by
    have hshape : msgidLine id = "msgid ".toList ++ ('"' :: (id ++ ['"'])) := rfl
    rw [hshape, quotedText_append (by decide), hupTo, strip_quoted, PyText.stripChar_wrap, hself]
  rw [loadLine, if_pos hhas, hquoted]
  rfl

/-- `msgid` is found in the line of a translation when it is part of it. -/
theorem strstr_msgstrLine (msgstr : Text) :
    (strstr "msgid".toList (msgstrLine msgstr)).isSome =
      (strstr "msgid".toList msgstr).isSome := by
  have hstart : ¬ "msgid".toList <+: 'm' :: ("sgstr \"".toList ++ (msgstr ++ ['"'])) := by
    simp [List.cons_prefix_cons]
  have hline : msgstrLine msgstr = 'm' :: ("sgstr \"".toList ++ (msgstr ++ ['"'])) := rfl
  rw [hline, strstr_cons_of_not_start hstart,
    strstr_append_of_notMem (x := 'm') _ (by decide) (by decide),
    strstr_concat_of_notMem (by decide) (by decide), Option.isSome_map, Option.isSome_map]

/-- The line of a translation that does not have `msgid` in it. -/
theorem loadLine_msgstrLine {id msgstr : Text} (hid : id ≠ [])
    (hplain : (strstr "msgid".toList msgstr).isSome = false) (messages : StdMap Text Text) :
    loadLine ⟨messages, some id⟩ (msgstrLine msgstr) =
      .ok ⟨messages.insert id (loadedText msgstr), none⟩ := by
  have hnot : ¬ (strstr "msgid".toList (msgstrLine msgstr)).isSome = true := by
    rw [strstr_msgstrLine, hplain]
    exact Bool.false_ne_true
  have hhas : (strstr "msgstr".toList (msgstrLine msgstr)).isSome = true :=
    (strstr_isSome_iff (by decide)).mpr ⟨[], ' ' :: '"' :: (msgstr ++ ['"']), rfl⟩
  have hquoted : quotedText "msgstr ".toList (msgstrLine msgstr) =
      .ok (PyText.stripChar '"' (PyText.strip
        (PyText.upTo "msgstr ".toList ('"' :: (msgstr ++ ['"']))))) :=
    quotedText_append (by decide) ('"' :: (msgstr ++ ['"']))
  have hfilter : (some id).filter (fun msgid => !msgid.isEmpty) = some id := by simp [hid]
  simp only [loadLine, if_neg hnot, hfilter, if_pos hhas, hquoted]
  rfl

/-- A line of a translation with `msgid` in it changes no message. -/
theorem messages_of_msgstrLine {st st' : Loading} {msgstr : Text}
    (hmsgid : (strstr "msgid".toList msgstr).isSome = true)
    (h : loadLine st (msgstrLine msgstr) = .ok st') : st'.messages = st.messages := by
  have hhas : (strstr "msgid".toList (msgstrLine msgstr)).isSome = true := by
    rw [strstr_msgstrLine, hmsgid]
  rw [loadLine, if_pos hhas] at h
  rcases Machine.ok_of_bind h with ⟨msgid, -, hnext⟩
  obtain rfl := Except.ok.inj hnext
  rfl

/-- An empty line changes nothing. -/
theorem loadLine_nil (st : Loading) : loadLine st [] = .ok st := by
  have hid : ¬ (strstr "msgid".toList []).isSome = true := by decide
  have hstr : ¬ (strstr "msgstr".toList []).isSome = true := by decide
  rw [loadLine, if_neg hid]
  split
  · rfl
  · rw [if_neg hstr]

/-! ## Entries -/

section Entries

variable {st st' : Loading} {e : PoEntry} {rest : List Text}

/-- The lines of an entry without `msgid` in its translation bind the identifier. -/
theorem load_entry_of_plain (hid : IsName e.msgid)
    (hplain : (strstr "msgid".toList e.msgstr).isSome = false) :
    (entryLines e ++ rest).foldlM loadLine st =
      rest.foldlM loadLine ⟨st.messages.insert e.msgid (loadedText e.msgstr), none⟩ := by
  rw [entryLines, List.cons_append, List.cons_append, List.cons_append, List.nil_append,
    List.foldlM_cons, loadLine_msgidLine hid]
  show (do
    let st ← loadLine ⟨st.messages, some e.msgid⟩ (msgstrLine e.msgstr)
    let st ← loadLine st []
    rest.foldlM loadLine st) = _
  rw [loadLine_msgstrLine hid.ne_nil hplain]
  show (do
    let st ← loadLine ⟨st.messages.insert e.msgid (loadedText e.msgstr), none⟩ []
    rest.foldlM loadLine st) = _
  rw [loadLine_nil]
  rfl

/-- The lines of an entry with `msgid` in its translation bind nothing. -/
theorem load_entry_of_msgid (hid : IsName e.msgid)
    (hmsgid : (strstr "msgid".toList e.msgstr).isSome = true)
    (h : (entryLines e ++ rest).foldlM loadLine st = .ok st') :
    ∃ next, next.messages = st.messages ∧ rest.foldlM loadLine next = .ok st' := by
  rw [entryLines, List.cons_append, List.cons_append, List.cons_append, List.nil_append] at h
  rcases Machine.ok_of_foldlM_cons h with ⟨first, hfirst, h⟩
  rcases Machine.ok_of_foldlM_cons h with ⟨next, hnext, h⟩
  rcases Machine.ok_of_foldlM_cons h with ⟨last, hlast, h⟩
  rw [loadLine_msgidLine hid] at hfirst
  obtain rfl := Except.ok.inj hfirst
  rw [loadLine_nil] at hlast
  obtain rfl := Except.ok.inj hlast
  have hsame := messages_of_msgstrLine hmsgid hnext
  exact ⟨next, hsame, h⟩

/-- What a file of entries leaves of the messages: an entry with `msgid` in its
translation binds nothing, the others bind what is loaded. -/
theorem getElem?_load {po : List PoEntry} (hids : ∀ e ∈ po, IsName e.msgid)
    (hnodup : (po.map PoEntry.msgid).Nodup)
    (h : (po.flatMap entryLines).foldlM loadLine st = .ok st') :
    (∀ e ∈ po, st'.messages[e.msgid]? =
        if (strstr "msgid".toList e.msgstr).isSome then st.messages[e.msgid]?
        else some (loadedText e.msgstr)) ∧
      ∀ id ∉ po.map PoEntry.msgid, st'.messages[id]? = st.messages[id]? := by
  induction po generalizing st with
  | nil =>
    obtain rfl : st = st' := Except.ok.inj h
    exact ⟨by simp, fun _ _ => rfl⟩
  | cons e po ih =>
    rw [List.forall_mem_cons] at hids
    rw [List.map_cons, List.nodup_cons] at hnodup
    rw [List.flatMap_cons] at h
    -- the messages after the first entry, and the run on the others
    obtain ⟨next, hself, hother, hrest⟩ : ∃ next : Loading,
        (next.messages[e.msgid]? = if (strstr "msgid".toList e.msgstr).isSome then
          st.messages[e.msgid]? else some (loadedText e.msgstr)) ∧
        (∀ id, id ≠ e.msgid → next.messages[id]? = st.messages[id]?) ∧
        (po.flatMap entryLines).foldlM loadLine next = .ok st' := by
      cases hmsgid : (strstr "msgid".toList e.msgstr).isSome with
      | true =>
        rcases load_entry_of_msgid hids.1 hmsgid h with ⟨next, hnext, hrest⟩
        exact ⟨next, by rw [hnext]; rfl, fun id _ => by rw [hnext], hrest⟩
      | false =>
        rw [load_entry_of_plain hids.1 hmsgid] at h
        refine ⟨_, Std.ExtTreeMap.getElem?_insert_self, fun id hne => ?_, h⟩
        rw [Std.ExtTreeMap.getElem?_insert, if_neg]
        exact fun heq => hne (Std.LawfulEqOrd.eq_of_compare heq).symm
    rcases ih hids.2 hnodup.2 hrest with ⟨hbound, hunbound⟩
    constructor
    · intro e' he'
      rcases List.mem_cons.mp he' with rfl | he'
      · rw [hunbound _ hnodup.1, hself]
      · have hne : e'.msgid ≠ e.msgid :=
          fun heq => hnodup.1 (heq ▸ List.mem_map.mpr ⟨e', he', rfl⟩)
        rw [hbound e' he', hother _ hne]
    · intro id hid
      rw [List.map_cons, List.mem_cons, not_or] at hid
      rw [hunbound id hid.2, hother id hid.1]

/-- A file of entries without `msgid` in their translations is loaded. -/
theorem exists_load {po : List PoEntry} (hids : ∀ e ∈ po, IsName e.msgid)
    (hplain : ∀ e ∈ po, (strstr "msgid".toList e.msgstr).isSome = false) (st : Loading) :
    ∃ st', (po.flatMap entryLines).foldlM loadLine st = .ok st' := by
  induction po generalizing st with
  | nil => exact ⟨st, rfl⟩
  | cons e po ih =>
    rw [List.forall_mem_cons] at hids hplain
    rw [List.flatMap_cons, load_entry_of_plain hids.1 hplain.1]
    exact ih hids.2 hplain.2 _

end Entries

/-! ## Line ends -/

theorem universalNewlines_eq_self {s : Text} (h : '\r' ∉ s) : universalNewlines s = s := by
  fun_induction universalNewlines s with
  | case1 => rfl
  | case2 cs => simp at h
  | case3 cs => simp at h
  | case4 c cs hcrlf hcr ih =>
    rw [List.mem_cons, not_or] at h
    rw [ih h.2]

theorem notMem_universalNewlines (s : Text) : '\r' ∉ universalNewlines s := by
  fun_induction universalNewlines s with
  | case1 => simp
  | case2 cs ih => simpa using ih
  | case3 cs hcrlf ih => simpa using ih
  | case4 c cs hcrlf hcr ih =>
    rw [List.mem_cons, not_or]
    exact ⟨fun heq => hcr heq.symm, ih⟩

/-! ## One translation -/

/-- The translations that come back. -/
structure Survives (subscript : Bool) (t : Text) : Prop where
  noReturn : '\r' ∉ t
  noMsgid : (strstr "msgid".toList t).isSome = false
  noMsgstr : (strstr "msgstr ".toList t).isSome = false
  noSubscript : ∀ c ∈ t, isSubscript c = false
  last : t.getLast? ≠ some '"'
  /-- a serial number keeps a quote at the front -/
  first : subscript = false → t.head? ≠ some '"'

theorem isSubscript_subscriptDigit {c : Char} (h : c.isDigit = true) :
    isSubscript (subscriptDigit c) = true := by
  have hdigits : ∀ n < 10, isSubscript (Char.ofNat (0x2080 + n)) = true := by decide
  have hrange : 48 ≤ c.toNat ∧ c.toNat ≤ 57 := by
    have hval : (48 ≤ c.val && c.val ≤ 57) = true := h
    simpa [UInt32.le_iff_toNat_le] using hval
  rw [subscriptDigit, if_pos h]
  exact hdigits _ (by omega)

/-- A serial number is made of subscript digits, and there is one when it is asked
for. -/
theorem generateSerialNumber_spec (subscript : Bool) (num total : Nat) :
    (∀ c ∈ generateSerialNumber subscript num total, isSubscript c = true) ∧
      (generateSerialNumber subscript num total = [] ↔ subscript = false) := by
  cases subscript with
  | false => exact ⟨by simp [generateSerialNumber], by simp [generateSerialNumber]⟩
  | true =>
    have hdecimal : decimal num = Nat.toDigits 10 num := by
      show (Nat.repr num).toList = _
      exact Nat.toList_repr
    have hpos : 0 < (decimal num).length := by
      rw [hdecimal]
      exact Nat.length_toDigits_pos
    constructor
    · intro c hc
      simp only [generateSerialNumber, Bool.not_true, Bool.false_eq_true, if_false, List.mem_map,
        List.mem_append, List.mem_replicate, hdecimal] at hc
      rcases hc with ⟨d, (⟨-, rfl⟩ | hd), rfl⟩
      · exact isSubscript_subscriptDigit rfl
      · exact isSubscript_subscriptDigit (Nat.isDigit_of_mem_toDigits (by decide) (by decide) hd)
    · refine iff_of_false ?_ Bool.noConfusion
      intro hnil
      have hlen := congrArg List.length hnil
      simp only [generateSerialNumber, Bool.not_true, Bool.false_eq_true, if_false,
        List.length_map, List.length_append, List.length_nil] at hlen
      omega

theorem stripSerialNumber_append {slno : Text} (h : ∀ c ∈ slno, isSubscript c = true) (t : Text) :
    stripSerialNumber (slno ++ t) = stripSerialNumber t := by
  have hnil : slno.filter (fun c => !isSubscript c) = [] := by
    rw [List.filter_eq_nil_iff]
    intro c hc
    simp [h c hc]
  rw [stripSerialNumber, List.filter_append, hnil, List.nil_append, stripSerialNumber]

theorem stripSerialNumber_eq_self_iff {t : Text} :
    stripSerialNumber t = t ↔ ∀ c ∈ t, isSubscript c = false := by
  rw [stripSerialNumber, List.filter_eq_self]
  simp

section Quotes

variable {slno t : Text}

/-- The serial number is not looked at for the key. -/
theorem upTo_msgstr (hslno : ∀ c ∈ slno, isSubscript c = true) :
    PyText.upTo "msgstr ".toList ('"' :: (slno ++ t ++ ['"'])) =
      '"' :: (slno ++ PyText.upTo "msgstr ".toList (t ++ ['"'])) := by
  have hm : 'm' ∉ '"' :: slno := by
    intro hmem
    rcases List.mem_cons.mp hmem with heq | hmem
    · exact absurd heq (by decide)
    · exact absurd (hslno 'm' hmem) (by decide)
  have hassoc : '"' :: (slno ++ t ++ ['"']) = ('"' :: slno) ++ (t ++ ['"']) := by simp
  rw [hassoc, PyText.upTo_append_of_notMem (x := 'm') _ (by decide) hm, List.cons_append]

/-- The translation is shortened at a `msgstr ` in it. -/
theorem length_loadedText_lt {i : Nat} (hslno : ∀ c ∈ slno, isSubscript c = true)
    (h : strstr "msgstr ".toList t = some i) : (loadedText (slno ++ t)).length < t.length := by
  have hin := strstr_le_length h (by decide)
  have hkey : 0 < "msgstr ".toList.length := by decide
  have hupTo : PyText.upTo "msgstr ".toList (t ++ ['"']) = t.take i := by
    rw [PyText.upTo, strstr_append h _ (by decide)]
    exact List.take_append_of_le_length (by omega)
  have hpart : (PyText.stripChar '"' (PyText.strip ('"' :: (slno ++ t.take i)))).Sublist
      (slno ++ t.take i) := by
    rw [PyText.strip_cons (by decide), PyText.stripChar_cons_self]
    exact (PyText.stripChar_sublist _ _).trans (List.rdropWhile_prefix _ _).sublist
  have hlen := (hpart.filter fun c => !isSubscript c).length_le
  rw [← stripSerialNumber, ← stripSerialNumber, stripSerialNumber_append hslno] at hlen
  have hcut : (stripSerialNumber (t.take i)).length ≤ i :=
    (List.length_filter_le _ _).trans (List.length_take_le _ _)
  rw [loadedText, upTo_msgstr hslno, hupTo]
  omega

/-- Without one the quotes at both ends and the subscript digits are dropped. -/
theorem loadedText_of_noMsgstr (hslno : ∀ c ∈ slno, isSubscript c = true)
    (h : strstr "msgstr ".toList t = none) :
    loadedText (slno ++ t) = stripSerialNumber (PyText.stripChar '"' (slno ++ t)) := by
  have hupTo : PyText.upTo "msgstr ".toList (t ++ ['"']) = t ++ ['"'] := by
    rw [PyText.upTo, strstr_concat_of_notMem (by decide) (by decide), h]
  rw [loadedText, upTo_msgstr hslno, hupTo, ← List.append_assoc, strip_quoted,
    PyText.stripChar_wrap]

/-- What is left of a text is the text when nothing was dropped. -/
theorem stripSerialNumber_eq_iff {left : Text} (h : left.Sublist t) :
    stripSerialNumber left = t ↔ (∀ c ∈ t, isSubscript c = false) ∧ left = t := by
  constructor
  · intro heq
    have hleft : (stripSerialNumber left).Sublist left := List.filter_sublist
    have hsame : left = t := h.antisymm (heq ▸ hleft)
    rw [hsame] at heq
    exact ⟨stripSerialNumber_eq_self_iff.mp heq, hsame⟩
  · rintro ⟨hplain, rfl⟩
    exact stripSerialNumber_eq_self_iff.mpr hplain

end Quotes

/-- The translations that come back, but for the other two conditions. -/
theorem loadedText_eq_iff {subscript : Bool} {num total : Nat} {t : Text} :
    loadedText (generateSerialNumber subscript num total ++ t) = t ↔
      (strstr "msgstr ".toList t).isSome = false ∧ (∀ c ∈ t, isSubscript c = false) ∧
        t.getLast? ≠ some '"' ∧ (subscript = false → t.head? ≠ some '"') := by
  rcases generateSerialNumber_spec subscript num total with ⟨hslno, hempty⟩
  generalize generateSerialNumber subscript num total = slno at hslno hempty
  cases hfound : strstr "msgstr ".toList t with
  | some i =>
    refine iff_of_false ?_ (fun h => absurd h.1 (by simp))
    intro heq
    have hlen := length_loadedText_lt hslno hfound
    rw [heq] at hlen
    omega
  | none =>
    rw [loadedText_of_noMsgstr hslno hfound, Option.isSome_none, eq_self, true_and]
    cases subscript with
    | false =>
      rw [hempty.mpr rfl, List.nil_append,
        stripSerialNumber_eq_iff (PyText.stripChar_sublist _ _), PyText.stripChar_eq_self_iff]
      simp only [forall_const]
      rw [@and_comm (t.head? ≠ some '"')]
    | true =>
      have hne : slno ≠ [] := fun hnil => Bool.noConfusion (hempty.mp hnil)
      have hquote : '"' ∉ slno := fun hmem => absurd (hslno _ hmem) (by decide)
      rw [PyText.stripChar_append t hne hquote, stripSerialNumber_append hslno,
        stripSerialNumber_eq_iff (List.rdropWhile_prefix _ _).sublist,
        PyText.rdropWhile_eq_self_iff]
      simp

end HelpCovid.Views
