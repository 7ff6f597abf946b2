import HelpCovid.Template.Builtins
import HelpCovid.Views.Customization

/-!
# Positions in templates

A markup of `basefilepos` has four forms. One `sscanf` reads all of them, and
something is written only when it reads a tag: the forms without one write nothing,
and an identifier that is too long is cut where the `sscanf` stops.
-/

namespace HelpCovid.Template

open CText ChunkMap Web Views

/-! ## What is asked for -/

/-- An identifier of HTML as it can stand in the markup. -/
structure Identifier where
  text : Text
  isName : IsName text

/-- The forms of the markup. -/
inductive PositionForm where
  | plain
  | comment
  | tag (t : Identifier) (h : t.text ≠ "comment".toList)
  | tagClass (t class_ : Identifier)

/-- The sizes of `tagbuf` and `classbuf` in the format. -/
def tagMaxlen : Nat := 20

def classMaxlen : Nat := 38

namespace PositionForm

/-- What stands after the name of the closure. -/
def arg : PositionForm → Text
  | .plain => []
  | .comment => " comment".toList
  | .tag t _ => ' ' :: t.text
  | .tagClass t class_ => ' ' :: (t.text ++ ' ' :: class_.text)

def markup (form : PositionForm) : Text := instruction "basefilepos".toList form.arg

/-- No identifier is too long. -/
def Short : PositionForm → Prop
  | .plain => True
  | .comment => True
  | .tag t _ => t.text.length ≤ tagMaxlen
  | .tagClass t class_ => t.text.length ≤ tagMaxlen ∧ class_.text.length ≤ classMaxlen

instance (form : PositionForm) : Decidable form.Short := by
  cases form <;> (unfold Short; infer_instance)

/-- The position between the marks of the form. -/
def wrap (position : Text) : PositionForm → Text
  | .plain => position
  | .comment => "<!-- @".toList ++ position ++ " -->".toList
  | .tag t _ => '<' :: t.text ++ ['>'] ++ position ++ "</".toList ++ t.text ++ ['>']
  | .tagClass t class_ =>
    '<' :: t.text ++ (" class='".toList ++ class_.text ++ ['\'']) ++ ['>'] ++ position ++
      "</".toList ++ t.text ++ ['>']

theorem wrap_tag (position : Text) (t : Identifier) (h : t.text ≠ "comment".toList) :
    (tag t h).wrap position =
      '<' :: t.text ++ ['>'] ++ position ++ "</".toList ++ t.text ++ ['>'] := rfl

theorem wrap_tagClass (position : Text) (t class_ : Identifier) :
    (tagClass t class_).wrap position =
      '<' :: t.text ++ (" class='".toList ++ class_.text ++ ['\'']) ++ ['>'] ++ position ++
        "</".toList ++ t.text ++ ['>'] := rfl

/-- A tag is given. -/
def HasTag : PositionForm → Prop
  | .plain => False
  | .comment => False
  | .tag _ _ => True
  | .tagClass _ _ => True

end PositionForm

/-- `base` is what follows the last slash. -/
def IsLastComponent (path base : Text) : Prop :=
  '/' ∉ base ∧ ∃ dir, path = dir ++ base ∧ (dir = [] ∨ dir.getLast? = some '/')

/-- The markup writes the escaped last component of the path and the line between
the marks of its form, and nothing when an identifier is too long. -/
def PositionWritten (form : PositionForm) (srv : Server) (tdata : TemplateData)
    (reading : Reading) (filename : Text) (lineno offset : Nat) : Prop :=
  ∀ base, IsLastComponent (cstr filename) base →
    expandWith builtinDict srv tdata reading ⟨form.markup, filename, lineno, offset⟩ =
      .ok (if form.Short then
        form.wrap (outputCstrEncodedHtml base ++ ':' :: decimal lineno) else [])

/-! ## The last component -/

theorem baseName_eq {path base : Text} (h : IsLastComponent path base) : baseName path = base := by
  rcases h with ⟨hbase, dir, rfl, hdir⟩
  have hall : ∀ c ∈ base.reverse, (c != '/') = true := by
    intro c hc
    rw [List.mem_reverse] at hc
    exact bne_iff_ne.mpr fun heq => hbase (heq ▸ hc)
  have hstop : dir.reverse.takeWhile (· != '/') = [] := by
    rcases hdir with rfl | hlast
    · rfl
    · rw [← List.head?_reverse] at hlast
      rcases List.head?_eq_some_iff.mp hlast with ⟨rest, hrest⟩
      rw [hrest]
      rfl
  rw [baseName, List.reverse_append, List.takeWhile_append_of_pos hall, hstop, List.append_nil,
    List.reverse_reverse]

theorem isLastComponent_baseName (path : Text) : IsLastComponent path (baseName path) := by
  have hsplit : path = (path.reverse.dropWhile (· != '/')).reverse ++ baseName path := by
    rw [baseName, ← List.reverse_append, List.takeWhile_append_dropWhile, List.reverse_reverse]
  refine ⟨?_, _, hsplit, ?_⟩
  · intro hmem
    rw [baseName, List.mem_reverse] at hmem
    exact absurd (List.mem_takeWhile_imp hmem) (by decide)
  · rw [List.reverse_eq_nil_iff, List.getLast?_reverse]
    have hhead := List.head?_dropWhile_not (· != '/') path.reverse
    cases hrest : path.reverse.dropWhile (· != '/') with
    | nil => exact Or.inl rfl
    | cons c rest =>
      rw [hrest] at hhead
      exact Or.inr (congrArg some (by simpa using hhead))

/-! ## The markups -/

namespace PositionForm

theorem arg_tagClass_append (t class_ : Identifier) (rest : Text) :
    (tagClass t class_).arg ++ rest = ' ' :: (t.text ++ ' ' :: (class_.text ++ rest)) := by
  show ' ' :: (t.text ++ ' ' :: class_.text) ++ rest = _
  rw [List.cons_append, List.append_assoc, List.cons_append]

/-- The identifiers have no end of a markup in them. -/
theorem isClosedInstruction (form : PositionForm) :
    IsClosedInstruction "basefilepos".toList form.arg := by
  have hfree : ∀ x, isNameChar x = false → x ≠ ' ' → x ∉ form.arg := by
    intro x hx hblank
    cases form with
    | plain => exact List.not_mem_nil
    | comment =>
      have hname : x ∉ "comment".toList :=
        notMem_of_isNameChar (List.all_eq_true.mp (by decide)) hx
      exact fun hmem => (List.mem_cons.mp hmem).elim hblank hname
    | tag t h =>
      exact fun hmem => (List.mem_cons.mp hmem).elim hblank (notMem_of_isNameChar t.isName.chars hx)
    | tagClass t class_ =>
      have htag : x ∉ t.text := notMem_of_isNameChar t.isName.chars hx
      have hclass : x ∉ class_.text := notMem_of_isNameChar class_.isName.chars hx
      show x ∉ ' ' :: (t.text ++ ' ' :: class_.text)
      rw [List.mem_cons, List.mem_append, List.mem_cons, not_or, not_or, not_or]
      exact ⟨hblank, htag, hblank, hclass⟩
  refine ⟨by decide, List.all_eq_true.mp (by decide), ?_,
    hfree '\x00' (by decide) (by decide), ?_⟩
  · intro c hc
    cases form with
    | plain => cases hc
    | comment => exact Option.some.inj hc ▸ rfl
    | tag t h => exact Option.some.inj hc ▸ rfl
    | tagClass t class_ => exact Option.some.inj hc ▸ rfl
  · rw [strstr_append_of_notMem (x := '?') _ rfl (hfree '?' (by decide) (by decide))]
    simp [closing, strstr_of_start]

/-- What the closure does with the markup. -/
theorem expandWith_markup (form : PositionForm) (srv : Server) (tdata : TemplateData)
    (reading : Reading) (filename : Text) (lineno offset : Nat) :
    expandWith builtinDict srv tdata reading ⟨form.markup, filename, lineno, offset⟩ =
      expandBasefilepos srv tdata reading ⟨form.markup, filename, lineno, offset⟩ :=
  expandWith_instruction form.isClosedInstruction (by decide) rfl srv tdata reading filename
    lineno offset

theorem cstr_markup (form : PositionForm) : cstr form.markup = form.markup :=
  cstr_of_notMem (isMarkup_instruction form.isClosedInstruction).noNul

/-- The scan begins after the name of the closure. -/
theorem scanBasefilepos_markup (form : PositionForm) :
    scanBasefilepos form.markup = (do
      let (tagbuf, rest) ← scanSet tagMaxlen isNameChar (blanks (form.arg ++ closing))
      match scanSet classMaxlen isNameChar (blanks rest) with
      | some (classbuf, _) => return (tagbuf, classbuf)
      | none => return (tagbuf, [])) := by
  have hdrop : form.markup.drop 5 = ' ' :: ("basefilepos".toList ++ (form.arg ++ closing)) := by
    rw [markup, instruction, List.append_assoc, List.append_assoc]
    rfl
  rw [scanBasefilepos, hdrop, blanks_name (by decide) (List.all_eq_true.mp (by decide)),
    literal_append]
  rfl

/-- A form with a tag is not the text that is compared with. -/
theorem markup_ne_comment {form : PositionForm} (h : form.HasTag) :
    form.markup ≠ "<?hcv basefilepos comment?>".toList := by
  intro heq
  have hcomment : "<?hcv basefilepos comment?>".toList =
      instruction "basefilepos".toList (' ' :: "comment".toList) := by decide
  rw [hcomment, markup, instruction, instruction] at heq
  have harg := List.append_cancel_left (List.append_cancel_right heq)
  cases form with
  | plain => exact h
  | comment => exact h
  | tag t hne => exact hne (List.cons.inj harg).2
  | tagClass t class_ =>
    have hblank : ' ' ∈ "comment".toList := by
      rw [← (List.cons.inj harg).2]
      exact List.mem_append_right _ List.mem_cons_self
    exact absurd hblank (by decide)

theorem short_of_not_hasTag (form : PositionForm) (h : ¬ form.HasTag) : form.Short := by
  cases form with
  | plain => exact trivial
  | comment => exact trivial
  | tag t hne => exact absurd trivial h
  | tagClass t class_ => exact absurd trivial h

/-- Each form shows its position. -/
theorem wrap_ne_nil (form : PositionForm) {position : Text} (h : position ≠ []) :
    form.wrap position ≠ [] := by
  cases form with
  | plain => exact h
  | comment => exact List.append_ne_nil_of_right_ne_nil _ (by decide)
  | tag t hne => exact List.append_ne_nil_of_right_ne_nil _ (List.cons_ne_nil _ _)
  | tagClass t class_ => exact List.append_ne_nil_of_right_ne_nil _ (List.cons_ne_nil _ _)

/-- The identifiers, as `tagbuf` and `classbuf`. -/
def fields : PositionForm → Text × Text
  | .plain => ([], [])
  | .comment => ([], [])
  | .tag t _ => (t.text, [])
  | .tagClass t class_ => (t.text, class_.text)

end PositionForm

/-! ## The scan -/

namespace Identifier

variable (t : Identifier) {width : Nat} {rest : Text}

/-- An identifier that is short enough is read as it is. -/
theorem scanSet_of_short (h : t.text.length ≤ width) (hrest : ∀ c ∈ rest.head?, ¬ isNameChar c) :
    scanSet width isNameChar (blanks (' ' :: (t.text ++ rest))) = some (t.text, rest) := by
  rw [blanks_name t.isName.ne_nil t.isName.chars]
  exact scanSet_append rest t.isName.ne_nil t.isName.chars h (Or.inr hrest)

/-- Something is read of any identifier. -/
theorem exists_scanSet (rest : Text) :
    ∃ field left, scanSet tagMaxlen isNameChar (blanks (' ' :: (t.text ++ rest))) =
      some (field, left) := by
  rw [blanks_name t.isName.ne_nil t.isName.chars]
  rcases List.exists_cons_of_ne_nil t.isName.ne_nil with ⟨c, cs, hcons⟩
  have hc : isNameChar c = true := t.isName.chars c (hcons ▸ List.mem_cons_self)
  rw [hcons, List.cons_append]
  exact CText.exists_scanSet 19 hc (cs ++ rest)

end Identifier

namespace PositionForm

/-- Where no tag is read nothing is written. -/
theorem scanBasefilepos_plain : scanBasefilepos plain.markup = none := by
  rw [scanBasefilepos_markup]
  rfl

/-- Short identifiers are read as they are. -/
theorem scanBasefilepos_of_short {form : PositionForm} (htag : form.HasTag) (h : form.Short) :
    scanBasefilepos form.markup = some form.fields := by
  have hclosing := not_isNameChar_of_head?_closing
  rw [scanBasefilepos_markup]
  cases form with
  | plain => exact htag.elim
  | comment => exact htag.elim
  | tag t hne =>
    have hscan : scanSet tagMaxlen isNameChar (blanks ((tag t hne).arg ++ closing)) =
        some (t.text, closing) := t.scanSet_of_short h hclosing
    have hclass : scanSet classMaxlen isNameChar (blanks closing) = none := by decide
    simp only [hscan, Option.bind_eq_bind, Option.bind_some, hclass]
    rfl
  | tagClass t class_ =>
    have hblank : ∀ c ∈ (' ' :: (class_.text ++ closing)).head?, ¬ isNameChar c := by
      intro c hc
      obtain rfl : ' ' = c := Option.some.inj hc
      decide
    have hscan : scanSet tagMaxlen isNameChar (blanks ((tagClass t class_).arg ++ closing)) =
        some (t.text, ' ' :: (class_.text ++ closing)) := by
      rw [arg_tagClass_append]
      exact t.scanSet_of_short h.1 hblank
    have hclass := class_.scanSet_of_short h.2 hclosing
    simp only [hscan, Option.bind_eq_bind, Option.bind_some, hclass]
    rfl

/-- Something is read of any identifiers. -/
theorem exists_scanBasefilepos {form : PositionForm} (htag : form.HasTag) :
    ∃ read, scanBasefilepos form.markup = some read := by
  have hscan : ∃ field left,
      scanSet tagMaxlen isNameChar (blanks (form.arg ++ closing)) = some (field, left) := by
    cases form with
    | plain => exact htag.elim
    | comment => exact htag.elim
    | tag t hne => exact t.exists_scanSet closing
    | tagClass t class_ =>
      rw [arg_tagClass_append]
      exact t.exists_scanSet _
  rcases hscan with ⟨field, left, hscan⟩
  rw [scanBasefilepos_markup]
  simp only [hscan, Option.bind_eq_bind, Option.bind_some]
  cases scanSet classMaxlen isNameChar (blanks left) with
  | none => exact ⟨_, rfl⟩
  | some class_ => exact ⟨_, rfl⟩

end PositionForm

/-! ## Which forms are written -/

section Written

variable (form : PositionForm) (srv : Server) (tdata : TemplateData) (reading : Reading)
  (filename : Text) (lineno offset : Nat)

/-- The forms with short identifiers and a tag. -/
theorem positionWritten_of_short (htag : form.HasTag) (h : form.Short) :
    PositionWritten form srv tdata reading filename lineno offset := by
  intro base hbase
  rw [form.expandWith_markup, if_pos h]
  simp only [expandBasefilepos, form.cstr_markup, if_neg (PositionForm.markup_ne_comment htag),
    PositionForm.scanBasefilepos_of_short htag h, baseName_eq hbase]
  cases form with
  | plain => exact htag.elim
  | comment => exact htag.elim
  | tag t hne =>
    rw [PositionForm.wrap_tag]
    simp [PositionForm.fields]
  | tagClass t class_ =>
    rw [PositionForm.wrap_tagClass]
    simp [PositionForm.fields, class_.isName.ne_nil]

/-- What is read is written, however long it was. -/
theorem expandWith_ne_nil (htag : form.HasTag) :
    expandWith builtinDict srv tdata reading ⟨form.markup, filename, lineno, offset⟩ ≠ .ok [] := by
  rcases PositionForm.exists_scanBasefilepos htag with ⟨⟨tagbuf, classbuf⟩, hread⟩
  rw [form.expandWith_markup]
  simp only [expandBasefilepos, form.cstr_markup, if_neg (PositionForm.markup_ne_comment htag), hread]
  intro h
  exact List.append_ne_nil_of_right_ne_nil _ (List.cons_ne_nil _ _) (Except.ok.inj h)

/-- Nothing is written for a form without a tag. -/
theorem expandWith_eq_nil (htag : ¬ form.HasTag) :
    expandWith builtinDict srv tdata reading ⟨form.markup, filename, lineno, offset⟩ = .ok [] := by
  rw [form.expandWith_markup]
  cases form with
  | plain =>
    have hne : PositionForm.plain.markup ≠ "<?hcv basefilepos comment?>".toList := by decide
    unfold expandBasefilepos
    dsimp only
    rw [PositionForm.cstr_markup, if_neg hne, PositionForm.scanBasefilepos_plain]
  | comment =>
    have heq : PositionForm.comment.markup = "<?hcv basefilepos comment?>".toList := by decide
    unfold expandBasefilepos
    dsimp only
    rw [PositionForm.cstr_markup, if_pos heq]
  | tag t hne => exact absurd trivial htag
  | tagClass t class_ => exact absurd trivial htag

/-- **Exactness.** A position is written as asked for exactly when the markup has a
tag and its identifiers are short enough, whatever the path and the line are. -/
theorem positionWritten_iff :
    PositionWritten form srv tdata reading filename lineno offset ↔ form.HasTag ∧ form.Short := by
  have hbase := isLastComponent_baseName (cstr filename)
  constructor
  · intro hwritten
    have hout := hwritten _ hbase
    by_cases htag : form.HasTag
    · refine ⟨htag, ?_⟩
      by_contra hlong
      rw [if_neg hlong] at hout
      exact expandWith_ne_nil form srv tdata reading filename lineno offset htag hout
    · rw [expandWith_eq_nil form srv tdata reading filename lineno offset htag,
        if_pos (form.short_of_not_hasTag htag)] at hout
      have hposition : outputCstrEncodedHtml (baseName (cstr filename)) ++ ':' :: decimal lineno ≠
          [] := List.append_ne_nil_of_right_ne_nil _ (List.cons_ne_nil _ _)
      exact absurd (Except.ok.inj hout).symm (form.wrap_ne_nil hposition)
  · rintro ⟨htag, h⟩
    exact positionWritten_of_short form srv tdata reading filename lineno offset htag h

end Written

/-- The position in the footer of `register.html` is not written, nor is the comment
below it. -/
theorem position_missing :
    PositionForm.plain.markup = "<?hcv basefilepos?>".toList ∧
      PositionForm.comment.markup = "<?hcv basefilepos comment?>".toList ∧
      ∀ srv tdata reading offset,
        expandWith builtinDict srv tdata reading
            ⟨"<?hcv basefilepos?>".toList, "html/register.html".toList, 279, offset⟩ = .ok [] ∧
          ¬ PositionWritten .plain srv tdata reading "html/register.html".toList 279 offset ∧
          ¬ PositionWritten .comment srv tdata reading "html/register.html".toList 285 offset := by
  refine ⟨by decide, by decide, fun srv tdata reading offset => ⟨?_, ?_, ?_⟩⟩
  · exact expandWith_eq_nil .plain srv tdata reading _ _ _ id
  · intro h
    have hout := h _ (isLastComponent_baseName _)
    rw [expandWith_eq_nil .plain srv tdata reading _ _ _ id] at hout
    exact absurd (Except.ok.inj hout) (by decide)
  · intro h
    have hout := h _ (isLastComponent_baseName _)
    rw [expandWith_eq_nil .comment srv tdata reading _ _ _ id] at hout
    exact absurd (Except.ok.inj hout) (by decide)

end HelpCovid.Template
