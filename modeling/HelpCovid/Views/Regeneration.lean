import HelpCovid.Views.PoFile

/-!
# Regenerating a catalogue

What is loaded from the PO file that was written for a dictionary is that
dictionary when its translations survive: `Survives` says which do. The losses
come from the loader, which takes a translation with `msgid` in it for an
identifier, cuts one at `msgstr ` and drops quotes and subscript digits.
-/

namespace HelpCovid.Views

open CText ChunkMap Template Web

/-- The dictionaries of single-line translations. -/
structure Dictionary where
  messages : StdMap Text Text
  names : ∀ id ∈ messages, IsName id
  single : ∀ {id t : Text}, messages[id]? = some t → '\n' ∉ t

/-- A run of the script on the contents of the PO file. -/
def generate (subscript : Bool) (htmlFiles : List Text) (contents : Text) :
    Except PyError Text := do
  let messages ← loadMessages contents
  let po ← run subscript messages htmlFiles
  return writeEntries po

/-- What the script is run on again. -/
structure Rerun where
  subscript : Bool
  htmlFiles : List Text
  msgids : List Text
  scanned : scanMsgidsFromHtml htmlFiles = .ok msgids
  names : ∀ id ∈ msgids, IsName id

/-- The script is run again and again. -/
def regenerate (reruns : List Rerun) (contents : Text) : Except PyError Text :=
  reruns.foldlM (fun contents r => generate r.subscript r.htmlFiles contents) contents

/-! ## What is asked for -/

/-- After each of the runs the file gives the dictionary back, with an empty
translation for the identifiers that are new. -/
def KeepsWork (d : Dictionary) (subscript : Bool) (reruns : List Rerun) : Prop :=
  ∀ front back, reruns = front ++ back →
    ∃ contents, regenerate front (writeMessages subscript d.messages) = .ok contents ∧
      loadMessages contents = .ok (addMsgids d.messages (front.flatMap Rerun.msgids))

/-- All translations survive. -/
def Dictionary.Survive (d : Dictionary) (subscript : Bool) : Prop :=
  ∀ id t : Text, d.messages[id]? = some t → Survives subscript t

/-! ## The entries of a dictionary -/

section Entries

variable (subscript : Bool) (messages : StdMap Text Text)

theorem map_msgid_poEntries : (poEntries subscript messages).map PoEntry.msgid = messages.keys := by
  rw [poEntries, map_msgid_zipIdx, Std.ExtTreeMap.map_fst_toList_eq_keys]

theorem nodup_msgid_poEntries : ((poEntries subscript messages).map PoEntry.msgid).Nodup := by
  rw [map_msgid_poEntries]
  exact Std.ExtTreeMap.nodup_keys

variable {subscript messages}

/-- An entry has a serial number before its translation. -/
theorem eq_of_mem_poEntries {e : PoEntry} (h : e ∈ poEntries subscript messages) :
    ∃ num t, messages[e.msgid]? = some t ∧
      e.msgstr = generateSerialNumber subscript num messages.toList.length ++ t := by
  rcases List.mem_map.mp h with ⟨item, hitem, rfl⟩
  have hmem : item.1 ∈ messages.toList := by
    rw [← List.zipIdx_map_fst 0 messages.toList]
    exact List.mem_map_of_mem hitem
  exact ⟨item.2 + 1, item.1.2, Std.ExtTreeMap.mem_toList_iff_getElem?_eq_some.mp hmem, rfl⟩

variable (subscript) in
/-- A translation has an entry. -/
theorem exists_mem_poEntries {id t : Text} (h : messages[id]? = some t) :
    ∃ e ∈ poEntries subscript messages, e.msgid = id ∧
      ∃ num, e.msgstr = generateSerialNumber subscript num messages.toList.length ++ t := by
  have hid : id ∈ (poEntries subscript messages).map PoEntry.msgid := by
    rw [map_msgid_poEntries, Std.ExtTreeMap.mem_keys, Std.ExtTreeMap.mem_iff_isSome_getElem?, h]
    rfl
  rcases List.mem_map.mp hid with ⟨e, he, rfl⟩
  rcases eq_of_mem_poEntries he with ⟨num, t', ht', hmsgstr⟩
  obtain rfl : t' = t := Option.some.inj (ht'.symm.trans h)
  exact ⟨e, he, rfl, num, hmsgstr⟩

end Entries

/-- A serial number has only subscript digits. -/
theorem notMem_serialNumber {c : Char} (h : isSubscript c = false) (subscript : Bool)
    (num total : Nat) : c ∉ generateSerialNumber subscript num total := by
  intro hmem
  rw [(generateSerialNumber_spec subscript num total).1 c hmem] at h
  exact Bool.noConfusion h

/-- `msgid` is not found in a serial number. -/
theorem strstr_msgid_serialNumber (subscript : Bool) (num total : Nat) (t : Text) :
    (strstr "msgid".toList (generateSerialNumber subscript num total ++ t)).isSome =
      (strstr "msgid".toList t).isSome := by
  rw [strstr_append_of_notMem (x := 'm') _ (by decide)
    (notMem_serialNumber (by decide) subscript num total), Option.isSome_map]

section Chars

variable {c : Char} {po : List PoEntry}

/-- A character that is in no entry is in no line of the file. -/
theorem notMem_entryLines (hopenings : c ∉ msgidOpening ++ msgstrOpening ++ ['"'])
    (hids : ∀ e ∈ po, c ∉ e.msgid) (hstrs : ∀ e ∈ po, c ∉ e.msgstr) :
    ∀ l ∈ po.flatMap entryLines, c ∉ l := by
  intro l hl
  rcases List.mem_flatMap.mp hl with ⟨e, he, hl⟩
  have hid := hids e he
  have hstr := hstrs e he
  simp only [List.mem_append, not_or] at hopenings
  simp only [entryLines, List.mem_cons, List.not_mem_nil, or_false] at hl
  rcases hl with rfl | rfl | rfl
  · simp only [msgidLine, List.mem_append, not_or]
    exact ⟨hopenings.1.1, hid, hopenings.2⟩
  · simp only [msgstrLine, List.mem_append, not_or]
    exact ⟨hopenings.1.2, hstr, hopenings.2⟩
  · exact List.not_mem_nil

end Chars

/-! ## Carriage returns -/

/-- What is read from a line is part of it. -/
theorem mem_of_mem_quotedText {key line text : Text} (hkey : key ≠ [])
    (h : quotedText key line = .ok text) {c : Char} (hc : c ∈ text) : c ∈ line := by
  rcases Machine.ok_of_bind h with ⟨second, hsecond, htext⟩
  obtain rfl := Except.ok.inj htext
  have hpart := PyText.mem_of_mem_strip ((PyText.stripChar_sublist _ _).subset hc)
  rw [index, PyText.getElem?_one_split hkey] at hsecond
  cases hfound : strstr key line with
  | none =>
    rw [hfound] at hsecond
    cases hsecond
  | some i =>
    rw [hfound] at hsecond
    obtain rfl := Except.ok.inj hsecond
    exact List.mem_of_mem_drop (PyText.mem_of_mem_upTo hpart)

/-- The messages have no carriage return. -/
def NoReturn (st : Loading) : Prop := ∀ id t : Text, st.messages[id]? = some t → '\r' ∉ t

theorem loadLine_noReturn {st st' : Loading} {line : Text} (hst : NoReturn st)
    (hline : '\r' ∉ line) (h : loadLine st line = .ok st') : NoReturn st' := by
  rw [loadLine] at h
  split at h
  · rcases Machine.ok_of_bind h with ⟨msgid, -, hnext⟩
    obtain rfl := Except.ok.inj hnext
    exact hst
  · split at h
    · obtain rfl := Except.ok.inj h
      exact hst
    · rename_i id hid
      split at h
      · rcases Machine.ok_of_bind h with ⟨msgstr, hmsgstr, hnext⟩
        obtain rfl := Except.ok.inj hnext
        intro a t hat hmem
        by_cases ha : a = id
        · subst ha
          rw [Std.ExtTreeMap.getElem?_insert_self] at hat
          obtain rfl := Option.some.inj hat
          have hstr : '\r' ∈ msgstr := List.mem_of_mem_filter hmem
          exact hline (mem_of_mem_quotedText (by decide) hmsgstr hstr)
        · rw [Std.ExtTreeMap.getElem?_insert, if_neg] at hat
          · exact hst a t hat hmem
          · exact fun heq => ha (Std.LawfulEqOrd.eq_of_compare heq).symm
      · obtain rfl := Except.ok.inj h
        exact hst

/-- What is loaded has no carriage return: they are line ends. -/
theorem loadMessages_noReturn {contents : Text} {messages : StdMap Text Text}
    (h : loadMessages contents = .ok messages) {id t : Text} (ht : messages[id]? = some t) :
    '\r' ∉ t := by
  rcases Machine.ok_of_bind h with ⟨st, hst, hmessages⟩
  obtain rfl := Except.ok.inj hmessages
  have hlines : ∀ l ∈ sourceLines contents, '\r' ∉ l := fun l hl hmem =>
    notMem_universalNewlines contents (mem_of_mem_lines hl hmem)
  have hstart : NoReturn ⟨∅, none⟩ := by
    intro a b hab
    simp at hab
  have hend : NoReturn st := Machine.foldlM_invariant
    (fun l hl _ _ hinv hload => loadLine_noReturn hinv (hlines l hl) hload) hstart hst
  exact hend id t ht

/-! ## The round trip -/

section RoundTrip

variable (subscript : Bool) (d : Dictionary)

theorem Dictionary.isName_of_mem_poEntries {e : PoEntry}
    (he : e ∈ poEntries subscript d.messages) : IsName e.msgid := by
  apply d.names
  rw [← Std.ExtTreeMap.mem_keys, ← map_msgid_poEntries subscript]
  exact List.mem_map_of_mem he

/-- A character that is no part of a name and in no translation is in no line. -/
theorem Dictionary.notMem_lines {c : Char} (hname : isNameChar c = false)
    (hsubscript : isSubscript c = false) (hopenings : c ∉ msgidOpening ++ msgstrOpening ++ ['"'])
    (htexts : ∀ id t : Text, d.messages[id]? = some t → c ∉ t) :
    ∀ l ∈ (poEntries subscript d.messages).flatMap entryLines, c ∉ l := by
  apply notMem_entryLines hopenings
  · exact fun e he => notMem_of_isNameChar (d.isName_of_mem_poEntries subscript he).chars hname
  · intro e he
    rcases eq_of_mem_poEntries he with ⟨num, t, ht, hmsgstr⟩
    rw [hmsgstr, List.mem_append, not_or]
    exact ⟨notMem_serialNumber hsubscript subscript num _, htexts _ t ht⟩

/-- The lines that are loaded are those of the entries. -/
theorem loadMessages_writeMessages
    (hreturn : ∀ id t : Text, d.messages[id]? = some t → '\r' ∉ t) :
    loadMessages (writeMessages subscript d.messages) =
      (((poEntries subscript d.messages).flatMap entryLines).foldlM loadLine ⟨∅, none⟩).map
        Loading.messages := by
  have hreturns := d.notMem_lines subscript (c := '\r') (by decide) (by decide) (by decide) hreturn
  have hnewlines := d.notMem_lines subscript (c := '\n') (by decide) (by decide) (by decide)
    fun _ _ => d.single
  have hfile : '\r' ∉ writeMessages subscript d.messages := by
    rw [writeMessages, writeEntries_eq]
    intro hmem
    rcases List.mem_flatMap.mp hmem with ⟨l, hl, hmem⟩
    rcases List.mem_append.mp hmem with hmem | hmem
    · exact hreturns l hl hmem
    · exact absurd hmem (by decide)
  have hlines : sourceLines (writeMessages subscript d.messages) =
      (poEntries subscript d.messages).flatMap entryLines := by
    rw [sourceLines, universalNewlines_eq_self hfile, writeMessages, writeEntries_eq,
      lines_unlines hnewlines]
  rw [loadMessages, hlines]
  rfl

variable {subscript d}

/-- What comes back unaltered survives. -/
theorem Dictionary.survive_of_loadMessages
    (h : loadMessages (writeMessages subscript d.messages) = .ok d.messages) :
    d.Survive subscript := by
  have hnoReturn : ∀ id t : Text, d.messages[id]? = some t → '\r' ∉ t :=
    fun id t ht => loadMessages_noReturn h ht
  have hids : ∀ e ∈ poEntries subscript d.messages, IsName e.msgid :=
    fun e he => d.isName_of_mem_poEntries subscript he
  rw [loadMessages_writeMessages subscript d hnoReturn] at h
  rcases Machine.ok_of_map h with ⟨st, hload, hmessages⟩
  intro id t ht
  rcases exists_mem_poEntries subscript ht with ⟨e, he, rfl, num, hmsgstr⟩
  have hfound := (getElem?_load hids (nodup_msgid_poEntries subscript d.messages) hload).1 e he
  rw [hmessages, ht, hmsgstr, strstr_msgid_serialNumber] at hfound
  cases hmsgid : (strstr "msgid".toList t).isSome with
  | true =>
      rw [hmsgid, if_pos rfl] at hfound
      simp at hfound
  | false =>
      rw [hmsgid, if_neg Bool.false_ne_true] at hfound
      have hsame := Option.some.inj hfound.symm
      rcases loadedText_eq_iff.mp hsame with ⟨hmsgstr, hplain, hlast, hfirst⟩
      exact ⟨hnoReturn _ t ht, hmsgid, hmsgstr, hplain, hlast, hfirst⟩

/-- What survives comes back unaltered. -/
theorem Dictionary.Survive.loadMessages_eq (h : d.Survive subscript) :
    loadMessages (writeMessages subscript d.messages) = .ok d.messages := by
  have hids : ∀ e ∈ poEntries subscript d.messages, IsName e.msgid :=
    fun e he => d.isName_of_mem_poEntries subscript he
  have hplain : ∀ e ∈ poEntries subscript d.messages,
      (strstr "msgid".toList e.msgstr).isSome = false := by
    intro e he
    rcases eq_of_mem_poEntries he with ⟨num, t, ht, hmsgstr⟩
    rw [hmsgstr, strstr_msgid_serialNumber, (h _ t ht).noMsgid]
  rcases exists_load hids hplain ⟨∅, none⟩ with ⟨st, hload⟩
  rcases getElem?_load hids (nodup_msgid_poEntries subscript d.messages) hload with
    ⟨hbound, hunbound⟩
  rw [loadMessages_writeMessages subscript d fun id t ht => (h id t ht).noReturn, hload]
  refine congrArg Except.ok (Std.ExtTreeMap.ext_getElem? fun id => ?_)
  cases ht : d.messages[id]? with
  | none =>
      rw [hunbound id]
      · simp
      · rw [map_msgid_poEntries, Std.ExtTreeMap.mem_keys, Std.ExtTreeMap.mem_iff_isSome_getElem?, ht]
        exact Bool.false_ne_true
  | some t =>
      rcases exists_mem_poEntries subscript ht with ⟨e, he, rfl, num, hmsgstr⟩
      have hsurvives := h _ t ht
      have hsame : loadedText e.msgstr = t := by
        rw [hmsgstr]
        exact loadedText_eq_iff.mpr
          ⟨hsurvives.noMsgstr, hsurvives.noSubscript, hsurvives.last, hsurvives.first⟩
      rw [hbound e he, hplain e he, if_neg Bool.false_ne_true, hsame]

variable (subscript d)

/-- The dictionary comes back exactly when all its translations survive. -/
theorem roundTrip_iff :
    loadMessages (writeMessages subscript d.messages) = .ok d.messages ↔ d.Survive subscript :=
  ⟨Dictionary.survive_of_loadMessages, Dictionary.Survive.loadMessages_eq⟩

end RoundTrip

/-! ## The runs -/

theorem survives_nil (subscript : Bool) : Survives subscript [] where
  noReturn := List.not_mem_nil
  noMsgid := by decide
  noMsgstr := by decide
  noSubscript := by simp
  last := by simp
  first := by simp

/-- The dictionary after a run. -/
def Dictionary.add (d : Dictionary) (r : Rerun) : Dictionary where
  messages := addMsgids d.messages r.msgids
  names := by
    intro id hid
    rcases (StdMap.mem_insertAll_iff _ _).mp hid with hid | ⟨e, he, rfl⟩
    · exact d.names id hid
    · rcases List.mem_map.mp he with ⟨msgid, hmsgid, rfl⟩
      exact r.names msgid hmsgid
  single := by
    intro id t ht
    rcases StdMap.some_or_mem_of_getElem?_insertAll ht with ht | hmem
    · exact d.single ht
    · rcases List.mem_map.mp hmem with ⟨msgid, -, heq⟩
      cases heq
      exact List.not_mem_nil

/-- The empty translations of a run survive. -/
theorem Dictionary.survive_add_iff (d : Dictionary) (r : Rerun) (subscript : Bool) :
    (d.add r).Survive subscript ↔ d.Survive subscript := by
  constructor
  · exact fun h id t ht => h id t (StdMap.getElem?_insertAll_of_some _ ht)
  · intro h id t ht
    rcases StdMap.some_or_mem_of_getElem?_insertAll ht with ht | hmem
    · exact h id t ht
    · rcases List.mem_map.mp hmem with ⟨msgid, -, heq⟩
      cases heq
      exact survives_nil subscript

/-- A run on a file that gives the dictionary writes the one with the empty
translations. -/
theorem generate_eq {d : Dictionary} {contents : Text} (h : loadMessages contents = .ok d.messages)
    (r : Rerun) :
    generate r.subscript r.htmlFiles contents =
      .ok (writeMessages r.subscript (d.add r).messages) := by
  unfold generate
  rw [h]
  show (run r.subscript d.messages r.htmlFiles >>= fun po => pure (writeEntries po)) = _
  rw [run_eq, r.scanned]
  rfl

/-- The dictionary is kept by all runs when it comes back from the file, and then
from the file that the first of them writes. -/
theorem keepsWork_cons_iff (d : Dictionary) (subscript : Bool) (r : Rerun) (rs : List Rerun) :
    KeepsWork d subscript (r :: rs) ↔
      d.Survive subscript ∧ KeepsWork (d.add r) r.subscript rs := by
  rw [← roundTrip_iff]
  have hstep : ∀ front, loadMessages (writeMessages subscript d.messages) = .ok d.messages →
      regenerate (r :: front) (writeMessages subscript d.messages) =
        regenerate front (writeMessages r.subscript (d.add r).messages) := by
    intro front hload
    rw [regenerate, List.foldlM_cons, generate_eq hload]
    rfl
  have hmessages : ∀ front : List Rerun,
      addMsgids d.messages ((r :: front).flatMap Rerun.msgids) =
        addMsgids (d.add r).messages (front.flatMap Rerun.msgids) := by
    intro front
    rw [List.flatMap_cons, addMsgids, List.map_append, StdMap.insertAll_append]
    rfl
  constructor
  · intro h
    rcases h [] (r :: rs) rfl with ⟨contents, hcontents, hload⟩
    obtain rfl := Except.ok.inj hcontents
    refine ⟨hload, ?_⟩
    rintro front back rfl
    rcases h (r :: front) back rfl with ⟨contents, hcontents, hfront⟩
    rw [hstep front hload] at hcontents
    rw [hmessages] at hfront
    exact ⟨contents, hcontents, hfront⟩
  · rintro ⟨hload, h⟩ front back heq
    cases front with
    | nil => exact ⟨_, rfl, hload⟩
    | cons r' front =>
      rw [List.cons_append, List.cons.injEq] at heq
      rcases heq with ⟨rfl, hrest⟩
      rcases h front back hrest with ⟨contents, hcontents, hfront⟩
      rw [hstep front hload, hmessages]
      exact ⟨contents, hcontents, hfront⟩

theorem keepsWork_nil_iff (d : Dictionary) (subscript : Bool) :
    KeepsWork d subscript [] ↔ d.Survive subscript := by
  rw [← roundTrip_iff]
  constructor
  · intro h
    rcases h [] [] rfl with ⟨contents, hcontents, hload⟩
    obtain rfl := Except.ok.inj hcontents
    exact hload
  · intro h front back heq
    rcases List.append_eq_nil_iff.mp heq.symm with ⟨rfl, -⟩
    exact ⟨_, rfl, h⟩

/-- **The translators' work.** A dictionary that is written is kept by all runs of
the script on the file exactly when its translations survive, with the serial
numbers or without them, as each file has them. -/
theorem keepsWork_iff (d : Dictionary) (subscript : Bool) (reruns : List Rerun) :
    KeepsWork d subscript reruns ↔
      ∀ flag ∈ subscript :: reruns.map Rerun.subscript, d.Survive flag := by
  induction reruns generalizing d subscript with
  | nil =>
    rw [keepsWork_nil_iff]
    simp
  | cons r rs ih =>
    rw [keepsWork_cons_iff, ih, List.forall_mem_cons, List.map_cons]
    simp only [Dictionary.survive_add_iff, List.forall_mem_cons]

/-! ## A quotation -/

/-- A translation that ends with a quotation. -/
def quotation : Dictionary where
  messages := ({} : StdMap Text Text).insert "SLOGAN".toList "Say \"stay home\"".toList
  names := by
    intro id hid
    rw [Std.ExtTreeMap.mem_insert] at hid
    rcases hid with heq | hid
    · rw [← Std.LawfulEqOrd.eq_of_compare heq]
      exact ⟨by decide, List.all_eq_true.mp (by decide)⟩
    · simp at hid
  single := by
    intro id t ht
    rw [Std.ExtTreeMap.getElem?_insert] at ht
    split at ht
    · obtain rfl := Option.some.inj ht
      decide
    · simp at ht

/-- Its last quote is lost, and nothing says so. -/
theorem quotation_altered :
    (loadMessages (writeMessages true quotation.messages)).map Std.ExtTreeMap.toList =
        .ok [("SLOGAN".toList, "Say \"stay home".toList)] ∧
      ¬ KeepsWork quotation true [] := by
  have hload : (loadMessages (writeMessages true quotation.messages)).map Std.ExtTreeMap.toList =
      .ok [("SLOGAN".toList, "Say \"stay home".toList)] := by decide +kernel
  refine ⟨hload, ?_⟩
  intro h
  rcases h [] [] rfl with ⟨contents, hcontents, hkept⟩
  obtain rfl := Except.ok.inj hcontents
  rw [hkept] at hload
  exact absurd (Except.ok.inj hload) (by decide +kernel)

end HelpCovid.Views
