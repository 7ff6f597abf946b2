import HelpCovid.Http.Url

/-!
# Query strings and forms

`parse_query_text` reads the query of a target and the body of a form: pieces
between `&`, each split again at `=`. The key of a piece is its first part that is
not empty and the value its last one, so a piece without a name gives its value as
the key. A form whose fields have names is read back whichever way the client encodes
it: each name is given the values of its fields, in order (`parseQueryText_form`).
-/

namespace HelpCovid.Http

open CText

/-- `detail::split`: what the function is called with. Nothing is nothing, not one
empty piece. -/
def split (s : Text) (d : Char) : List Text := if s.isEmpty then [] else s.splitOn d

/-- The inner function of `parse_query_text`. -/
def assignKeyVal (kv : Text × Text) (piece : Text) : Text × Text :=
  if kv.1.isEmpty then (piece, kv.2) else (kv.1, piece)

/-- What `parse_query_text` makes of a piece. -/
def parsePiece (piece : Text) : Text × Text :=
  let kv := (split piece '=').foldl assignKeyVal ([], [])
  (decodeUrl kv.1 true, decodeUrl kv.2 true)

/-- `detail::parse_query_text` -/
def parseQueryText (s : Text) (params : Params) : Params :=
  params.emplaceAll ((split s '&').map parsePiece)

/-- `Request::get_param_value(key)`, with the default index. -/
def getParamValue (params : Params) (key : Text) : Text := (params.find? key).getD []

/-! ## Forms -/

/-- A way to write a field of a form: the separators are encoded, and it has a name. -/
structure EncodesField (field enc : Text × Text) : Prop where
  key : Encodes true field.1 enc.1
  value : Encodes true field.2 enc.2
  named : enc.1 ≠ []
  plain : ∀ c ∈ enc.1 ++ enc.2, c ≠ '&' ∧ c ≠ '='

/-- `name=value` -/
def fieldText (enc : Text × Text) : Text := enc.1 ++ '=' :: enc.2

/-- The text of a form. -/
def formText (encs : List (Text × Text)) : Text := ['&'].intercalate (encs.map fieldText)

theorem parsePiece_fieldText {field enc : Text × Text} (h : EncodesField field enc) :
    parsePiece (fieldText enc) = field := by
  have hkey : '=' ∉ enc.1 := fun hmem => (h.plain _ (List.mem_append_left _ hmem)).2 rfl
  have hvalue : '=' ∉ enc.2 := fun hmem => (h.plain _ (List.mem_append_right _ hmem)).2 rfl
  have hsplit : split (fieldText enc) '=' = [enc.1, enc.2] := by
    rw [split, if_neg (by simp [fieldText]), fieldText,
      List.splitOn_append_cons_self_of_not_mem hkey, List.splitOn_eq_singleton hvalue]
  have hassign : [enc.1, enc.2].foldl assignKeyVal ([], []) = enc := by
    simp [assignKeyVal, h.named]
  rw [parsePiece, hsplit, hassign, decodeUrl_of_encodes h.key, decodeUrl_of_encodes h.value]

theorem EncodesField.notMem {field enc : Text × Text} (h : EncodesField field enc) :
    '&' ∉ fieldText enc := by
  intro hmem
  have hmem : '&' ∈ enc.1 ++ enc.2 := by simpa [fieldText] using hmem
  exact (h.plain _ hmem).1 rfl

/-- Splitting takes apart what was put together, unless that is one empty piece. -/
theorem split_intercalate {d : Char} {ls : List Text} (hd : ∀ l ∈ ls, d ∉ l)
    (hne : ∀ l ∈ ls, l ≠ []) : split ([d].intercalate ls) d = ls := by
  cases ls with
  | nil => rfl
  | cons l ls =>
      have hsplit := List.splitOn_intercalate d hd (List.cons_ne_nil l ls)
      unfold split
      split
      · next hempty =>
          -- only one empty piece is put together as nothing
          rw [List.isEmpty_iff.mp hempty, List.splitOn_nil] at hsplit
          exact absurd (List.head_eq_of_cons_eq hsplit).symm (hne l List.mem_cons_self)
      · exact hsplit

/-- The pieces of a form are its fields. -/
theorem parsePiece_formText {fields encs : List (Text × Text)}
    (h : List.Forall₂ EncodesField fields encs) :
    (split (formText encs) '&').map parsePiece = fields := by
  have hplain : ∀ l ∈ encs.map fieldText, '&' ∉ l ∧ l ≠ [] := by
    induction h with
    | nil => simp
    | cons hfield _ ih =>
        rw [List.map_cons, List.forall_mem_cons]
        exact ⟨⟨hfield.notMem, by simp [fieldText]⟩, ih⟩
  rw [formText, split_intercalate (fun l hl => (hplain l hl).1) fun l hl => (hplain l hl).2,
    List.map_map]
  clear hplain
  induction h with
  | nil => rfl
  | cons hfield _ ih => rw [List.map_cons, ih, Function.comp_apply, parsePiece_fieldText hfield]

/-- The fields of a form are inserted in order: a name has the values that it had, and
then those of its fields. -/
theorem parseQueryText_form {fields encs : List (Text × Text)}
    (h : List.Forall₂ EncodesField fields encs) (params : Params) :
    parseQueryText (formText encs) params = params.emplaceAll fields ∧
      ∀ key, (parseQueryText (formText encs) params).equalRange key =
        params.equalRange key ++ (fields.filter (·.1 = key)).map Prod.snd := by
  have hparse : parseQueryText (formText encs) params = params.emplaceAll fields := by
    rw [parseQueryText, parsePiece_formText h]
  refine ⟨hparse, fun key => ?_⟩
  rw [hparse]
  exact StdMultimap.equalRange_emplaceAll params fields key

/-- A blank written as a plus, and a separator by its number; the names are not in
order. -/
theorem parseQueryText_form_blank :
    parseQueryText (formText [("b".toList, "1".toList), ("a+".toList, "%3d".toList)]) ∅ =
        StdMultimap.emplaceAll ∅ [("b".toList, "1".toList), ("a ".toList, "=".toList)] ∧
      ∀ key, (parseQueryText (formText [("b".toList, "1".toList), ("a+".toList, "%3d".toList)])
          ∅).equalRange key = StdMultimap.equalRange ∅ key ++
        ([("b".toList, "1".toList), ("a ".toList, "=".toList)].filter (·.1 = key)).map Prod.snd := by
  have hkey : Encodes true ['a', ' '] ['a', '+'] :=
    @Encodes.cons _ ['a'] [' '] ['a'] ['+'] (.plain (by decide) (by decide))
      (@Encodes.cons _ [' '] [] ['+'] [] (.plus rfl) .nil)
  have hvalue : Encodes true ['='] ['%', '3', 'd'] :=
    @Encodes.cons _ ['='] [] ['%', '3', 'd'] []
      (@EncodesUnit.hex _ '=' '3' 'd' 3 13 (by decide) (by decide) (by decide)) .nil
  have hblank : EncodesField ("a ".toList, "=".toList) ("a+".toList, "%3d".toList) :=
    ⟨hkey, hvalue, by decide, by decide⟩
  have hone : ∀ c : Char, c ≠ '%' → c ≠ '+' → Encodes true [c] [c] := fun c hc hplus =>
    @Encodes.cons _ [c] [] [c] [] (.plain hc fun _ => hplus) .nil
  have hfirst : EncodesField ("b".toList, "1".toList) ("b".toList, "1".toList) :=
    ⟨hone 'b' (by decide) (by decide), hone '1' (by decide) (by decide), by decide, by decide⟩
  exact parseQueryText_form (.cons hfirst (.cons hblank .nil)) ∅

/-- An iteration goes by name. -/
example : (parseQueryText "b=1&a=2&b=0".toList ∅).entries =
    [("a".toList, "2".toList), ("b".toList, "1".toList), ("b".toList, "0".toList)] := by decide

end HelpCovid.Http
