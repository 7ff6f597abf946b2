import HelpCovid.Lib.Machine
import HelpCovid.Lib.PyText
import HelpCovid.Views.Customization
import HelpCovid.Views.Identifiers

/-!
# The translation catalogue

`generate-i18n.py` scans the HTML templates for messages and writes them to a PO
file. It takes the first word after the first `<?hcv msg` of a line, where the
expander goes through all markups; `complete_iff` says which templates have a
complete catalogue for that.
-/

namespace HelpCovid.Views

open CText ChunkMap Template Web

/-! ## The generator -/

/-- The exception the scan of a template can raise. -/
inductive PyError where
  | indexError
deriving Repr, DecidableEq

/-- `l[i]` -/
def index (l : List Text) (i : Nat) : Except PyError Text :=
  match l[i]? with
  | none => .error .indexError
  | some t => .ok t

/-- The line ends a text file is opened with: they all become `\n`. -/
def universalNewlines : Text → Text
  | [] => []
  | '\r' :: '\n' :: cs => '\n' :: universalNewlines cs
  | '\r' :: cs => '\n' :: universalNewlines cs
  | c :: cs => c :: universalNewlines cs

/-- The lines of a text file, without their ends: the end is a blank. -/
def sourceLines (contents : Text) : List Text := lines (universalNewlines contents)

/-- `tag` -/
def msgTag : Text := "<?hcv msg".toList

/-- `line.split(tag)[1].split()[0]` -/
def scanMsgidFromLine (line : Text) : Except PyError Text := do
  let text ← index (PyText.split msgTag line) 1
  index (PyText.words text) 0

/-- The lines of a template with the tag. -/
def taggedLines (contents : Text) : List Text :=
  (sourceLines contents).filter fun line => (strstr msgTag line).isSome

/-- `__scan_msgids_from_html`, before the identifiers are sorted. -/
def scanMsgidsFromHtml (htmlFiles : List Text) : Except PyError (List Text) :=
  (htmlFiles.flatMap taggedLines).mapM scanMsgidFromLine

/-- The subscript of a decimal digit. -/
def subscriptDigit (c : Char) : Char :=
  if c.isDigit then Char.ofNat (0x2080 + (c.toNat - 48)) else c

/-- `__generate_serial_number` -/
def generateSerialNumber (subscript : Bool) (num total : Nat) : Text :=
  if !subscript then []
  else
    let offset := max 3 (decimal total).length
    let padding := List.replicate (offset - (decimal num).length) '0'
    (padding ++ decimal num).map subscriptDigit

/-- An entry of a PO file. -/
structure PoEntry where
  msgid : Text
  msgstr : Text
deriving Repr, DecidableEq

/-- `run`: the entries of the PO file, given those that were loaded. -/
def run (subscript : Bool) (messages : StdMap Text Text) (htmlFiles : List Text) :
    Except PyError (List PoEntry) := do
  let msgids ← scanMsgidsFromHtml htmlFiles
  -- both branches sort the identifiers and drop repetitions
  let messages := StdMap.insertAll messages (msgids.map fun msgid => (msgid, []))
  let items := messages.toList
  return items.zipIdx.map fun item =>
    ⟨item.1.1, generateSerialNumber subscript (item.2 + 1) items.length ++ item.1.2⟩

/-! ## What is asked for -/

/-- The HTML templates: paths with contents. -/
abbrev Templates := List (Text × Text)

/-- The templates as files. -/
def Templates.fs (t : Templates) (path : Text) : Option SourceFile :=
  (t.lookup path).map fun contents => ⟨true, contents⟩

/-- An identifier that the expansion of a template may pass to `dgettext`. -/
def LookedUp (t : Templates) (id : Text) : Prop :=
  ∃ path ∈ t.map Prod.fst, ∃ srv tdata env, id ∈ pageLookups srv tdata env t.fs path

/-- `id` is the identifier of a message that some server comes to in a template. -/
def Asks (t : Templates) (id : Text) : Prop :=
  ∃ file ∈ t, ∃ procinstr, Reached (fileSteps t.fs file.1) procinstr ∧ IsMessage procinstr id

/-- Every identifier that is looked up is in the PO file. -/
def Complete (subscript : Bool) (messages : StdMap Text Text) (t : Templates) : Prop :=
  ∀ id, LookedUp t id →
    ∃ po, run subscript messages (t.map Prod.snd) = .ok po ∧ id ∈ po.map PoEntry.msgid

/-- The line has `id` as the first word after its first tag; the text for this ends
at the next tag. -/
def Announces (line id : Text) : Prop :=
  ∃ i, strstr msgTag line = some i ∧
    PyText.IsFirstWord (PyText.upTo msgTag (line.drop (i + msgTag.length))) id

/-- A line with a tag announces some identifier. -/
def Readable (t : Templates) : Prop :=
  ∀ file ∈ t, ∀ line ∈ taggedLines file.2, ∃ id, Announces line id

/-- A line of some template announces `id`. -/
def Announced (t : Templates) (id : Text) : Prop :=
  ∃ file ∈ t, ∃ line ∈ taggedLines file.2, Announces line id

/-! ## The scan of a line -/

theorem msgTag_ne_nil : msgTag ≠ [] := by decide

theorem scanMsgidFromLine_eq_ok_iff {line id : Text} :
    scanMsgidFromLine line = .ok id ↔ Announces line id := by
  unfold scanMsgidFromLine Announces index
  rw [PyText.getElem?_one_split msgTag_ne_nil]
  cases strstr msgTag line with
  | none => simp [bind, Except.bind]
  | some i =>
      simp only [Option.map_some, Option.some.injEq, exists_eq_left', ← PyText.head?_words_eq_some_iff,
        ← List.head?_eq_getElem?, bind, Except.bind]
      cases (PyText.words (PyText.upTo msgTag (line.drop (i + msgTag.length)))).head? <;> simp

section MapM

variable {α β ε : Type*} {f : α → Except ε β}

/-- All elements are gone through when none of them fails. -/
theorem exists_mapM_eq_ok_iff {l : List α} :
    (∃ found, l.mapM f = .ok found) ↔ ∀ a ∈ l, ∃ b, f a = .ok b := by
  induction l with
  | nil => simp [pure, Except.pure]
  | cons a l ih =>
      rw [List.mapM_cons, List.forall_mem_cons, ← ih]
      cases f a with
      | error e => simp [bind, Except.bind]
      | ok b => cases l.mapM f <;> simp [bind, Except.bind, pure, Except.pure]

/-- What is found is what the elements give. -/
theorem mem_iff_of_mapM_eq_ok {l : List α} {found : List β} (h : l.mapM f = .ok found) {b : β} :
    b ∈ found ↔ ∃ a ∈ l, f a = .ok b := by
  induction l generalizing found with
  | nil =>
      obtain rfl : [] = found := Except.ok.inj h
      simp
  | cons a l ih =>
      rw [List.mapM_cons] at h
      rcases Machine.ok_of_bind h with ⟨b', ha, h⟩
      rcases Machine.ok_of_bind h with ⟨bs, hl, h⟩
      obtain rfl : b' :: bs = found := Except.ok.inj h
      rw [List.mem_cons, ih hl, List.exists_mem_cons_iff, ha, Except.ok.injEq, eq_comm]

end MapM

/-! ## The PO file -/

section Run

variable {subscript : Bool} {messages : StdMap Text Text} {t : Templates}

/-- The generator ends without an exception when every line is readable. -/
theorem exists_scanMsgidsFromHtml_iff :
    (∃ msgids, scanMsgidsFromHtml (t.map Prod.snd) = .ok msgids) ↔ Readable t := by
  unfold scanMsgidsFromHtml Readable
  simp only [exists_mapM_eq_ok_iff, List.flatMap_map, List.mem_flatMap, scanMsgidFromLine_eq_ok_iff]
  constructor
  · exact fun h file hfile line hline => h line ⟨file, hfile, hline⟩
  · rintro h line ⟨file, hfile, hline⟩
    exact h file hfile line hline

theorem mem_scanMsgidsFromHtml_iff {msgids : List Text}
    (h : scanMsgidsFromHtml (t.map Prod.snd) = .ok msgids) {id : Text} :
    id ∈ msgids ↔ Announced t id := by
  rw [mem_iff_of_mapM_eq_ok h]
  unfold Announced
  simp only [List.flatMap_map, List.mem_flatMap, scanMsgidFromLine_eq_ok_iff]
  constructor
  · rintro ⟨line, ⟨file, hfile, hline⟩, hid⟩
    exact ⟨file, hfile, line, hline, hid⟩
  · rintro ⟨file, hfile, line, hline, hid⟩
    exact ⟨line, ⟨file, hfile, hline⟩, hid⟩

theorem exists_run_iff :
    (∃ po, run subscript messages (t.map Prod.snd) = .ok po) ↔ Readable t := by
  rw [← exists_scanMsgidsFromHtml_iff]
  unfold run
  cases scanMsgidsFromHtml (t.map Prod.snd) with
  | error e => simp [bind, Except.bind]
  | ok msgids => simp [bind, Except.bind, pure, Except.pure]

/-- Numbering the entries leaves their identifiers alone. -/
theorem map_msgid_zipIdx (subscript : Bool) (total : Nat) (items : List (Text × Text)) :
    (items.zipIdx.map fun item =>
      (⟨item.1.1, generateSerialNumber subscript (item.2 + 1) total ++ item.1.2⟩ :
        PoEntry)).map PoEntry.msgid = items.map Prod.fst := by
  rw [List.map_map]
  conv_rhs => rw [← List.zipIdx_map_fst 0 items, List.map_map]
  rfl

/-- The identifiers of the PO file are the keys of the messages: the numbers are
put before the translations only. -/
theorem mem_msgid_of_run {po : List PoEntry}
    (h : run subscript messages (t.map Prod.snd) = .ok po) {id : Text} :
    id ∈ po.map PoEntry.msgid ↔ id ∈ messages ∨ Announced t id := by
  rcases Machine.ok_of_bind h with ⟨msgids, hscan, h⟩
  obtain rfl := Except.ok.inj h
  have hkeys : id ∈ StdMap.insertAll messages (msgids.map fun msgid => (msgid, [])) ↔
      id ∈ messages ∨ Announced t id := by
    rw [StdMap.mem_insertAll_iff, ← mem_scanMsgidsFromHtml_iff hscan]
    simp
  rw [map_msgid_zipIdx, Std.ExtTreeMap.map_fst_toList_eq_keys, Std.ExtTreeMap.mem_keys, hkeys]

/-- What the templates can look up. -/
theorem lookedUp_iff {id : Text} : LookedUp t id ↔ Asks t id := by
  unfold LookedUp Asks
  simp only [exists_mem_pageLookups_iff, List.mem_map]
  constructor
  · rintro ⟨path, ⟨file, hfile, rfl⟩, h⟩
    exact ⟨file, hfile, h⟩
  · rintro ⟨file, hfile, h⟩
    exact ⟨file.1, ⟨file, hfile, rfl⟩, h⟩

/-- **The catalogue.** Every identifier that the expansion of a template looks up is
in the PO file exactly when, for each message that the templates reach, the
generator gets through the templates, and its identifier was known before or is
the first word after the first tag of a line. -/
theorem complete_iff (subscript : Bool) (messages : StdMap Text Text) (t : Templates) :
    Complete subscript messages t ↔
      ∀ id, Asks t id → Readable t ∧ (id ∈ messages ∨ Announced t id) := by
  unfold Complete
  simp only [lookedUp_iff]
  constructor
  · intro h id hid
    rcases h id hid with ⟨po, hrun, hmem⟩
    exact ⟨exists_run_iff.mp ⟨po, hrun⟩, (mem_msgid_of_run hrun).mp hmem⟩
  · intro h id hid
    rcases h id hid with ⟨hreadable, hknown⟩
    rcases exists_run_iff.mpr hreadable with ⟨po, hrun⟩
    exact ⟨po, hrun, (mem_msgid_of_run hrun).mpr hknown⟩

end Run

/-! ## Two messages on a line -/

/-- A template with two messages on a line. -/
def twoMessages : Templates :=
  [("html/page.html".toList, "<?hcv msg FIRST one?> <?hcv msg SECOND two?>\n".toList)]

/-- The second is looked up and missing. -/
theorem second_message_missing :
    LookedUp twoMessages "SECOND".toList ∧
      (∃ po, run false ∅ (twoMessages.map Prod.snd) = .ok po ∧
        po.map PoEntry.msgid = ["FIRST".toList]) ∧
      ¬ Complete false ∅ twoMessages := by
  have hlooked : LookedUp twoMessages "SECOND".toList := by
    rw [lookedUp_iff]
    refine ⟨_, List.mem_cons_self, ?_⟩
    rw [← mem_messageIds_iff]
    decide +kernel
  have hrun : ∃ po, run false ∅ (twoMessages.map Prod.snd) = .ok po ∧
      po.map PoEntry.msgid = ["FIRST".toList] := ⟨[⟨"FIRST".toList, []⟩], by decide +kernel, rfl⟩
  refine ⟨hlooked, hrun, ?_⟩
  intro h
  rcases h _ hlooked with ⟨po, hpo, hmem⟩
  rcases hrun with ⟨po', hpo', hmsgids⟩
  rw [hpo] at hpo'
  obtain rfl := Except.ok.inj hpo'
  rw [hmsgids] at hmem
  exact absurd hmem (by decide)

end HelpCovid.Views
