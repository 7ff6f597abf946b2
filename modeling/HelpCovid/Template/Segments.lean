import HelpCovid.Template.Expander

/-!
# What a template means

The reference the scanners are compared with: a line is cut into literal text
and markups, each markup running from an occurrence of `<?hcv ` to the first
`?>` after it; a markup stands for what the expander of its name writes. An
unclosed `<?hcv ` is literal text with the rest of its line.
-/

namespace HelpCovid.Template

open CText

/-- A piece of a template: literal text, or a markup with its position in the
file and the number and the offset of its line. -/
inductive Piece where
  | text (s : Text)
  | markup (position lineno offset : Nat) (procinstr : Text)
deriving Repr, DecidableEq

/-- The first closed markup of a text: the text before it, the markup itself and
the text after it. -/
def nextMarkup (cur : Text) : Option (Text × Text × Text) :=
  match strstr opening cur with
  | none => none
  | some startpi =>
      match strstr closing (cur.drop (startpi + opening.length)) with
      | none => none
      | some len =>
          let size := opening.length + len + closing.length
          some (cur.take startpi, (cur.drop startpi).take size, cur.drop (startpi + size))

/-- A markup found is one, and the text is cut around it. -/
theorem nextMarkup_spec {cur before markup rest : Text}
    (h : nextMarkup cur = some (before, markup, rest)) :
    ∃ startpi len, strstr opening cur = some startpi ∧
      strstr closing (cur.drop (startpi + opening.length)) = some len ∧
      before = cur.take startpi ∧
      markup = (cur.drop startpi).take (opening.length + len + closing.length) ∧
      rest = cur.drop (startpi + (opening.length + len + closing.length)) := by
  unfold nextMarkup at h
  split at h
  · simp at h
  · next startpi hstart =>
      split at h
      · simp at h
      · next len hclose =>
          simp only [Option.some.injEq, Prod.mk.injEq] at h
          rcases h with ⟨hbefore, hmarkup, hrest⟩
          exact ⟨startpi, len, hstart, hclose, hbefore.symm, hmarkup.symm, hrest.symm⟩

theorem nextMarkup_length {cur before markup rest : Text}
    (h : nextMarkup cur = some (before, markup, rest)) : rest.length < cur.length := by
  rcases nextMarkup_spec h with ⟨startpi, len, hstart, -, -, -, rfl⟩
  have hlong := strstr_le_length hstart opening_ne_nil
  have hpos : 0 < opening.length := List.length_pos_iff.mpr opening_ne_nil
  rw [List.length_drop]
  omega

/-- The pieces of a line from column `col` on. -/
def linePieces (lineno off col : Nat) (cur : Text) : List Piece :=
  match _h : nextMarkup cur with
  | none => [.text cur]
  | some (before, markup, rest) =>
      .text before :: .markup (off + col + before.length) lineno off markup ::
        linePieces lineno off (col + before.length + markup.length) rest
termination_by cur.length
decreasing_by exact nextMarkup_length _h

/-- A line among the first seven that starts with `<!` is copied verbatim. -/
def declarationLine (lineno : Nat) (line : Text) : Bool :=
  lineno < 8 && ['<', '!'].isPrefixOf line

/-- The pieces of a file whose next line has number `lineno` and offset `off`. -/
def filePieces : (lineno off : Nat) → List Text → List Piece
  | _, _, [] => []
  | lineno, off, line :: rest =>
      (if declarationLine lineno line then [.text line] else linePieces lineno off 0 line) ++
        .text ['\n'] :: filePieces (lineno + 1) (off + line.length + 1) rest

/-- The name of a markup: the letters, digits and underscores after the blanks. -/
def markupName (procinstr : Text) : Text :=
  (blanks (procinstr.drop 5)).takeWhile isNameChar

section Meaning

variable {ε : Type*} (dict : ExpanderDict ε) (env : Nat → ε) (filename : Text)

/-- What a piece stands for: literal text for itself, a markup for what the
expander registered under its name writes, or for nothing. -/
def Piece.meaning : Piece → Text
  | .text s => s
  | .markup position lineno offset procinstr =>
      match dict.find (markupName procinstr) with
      | none => []
      | some clos => clos (env position) ⟨procinstr, filename, lineno, offset⟩

/-- The expansion of a template. -/
def templateMeaning (contents : Text) : Text :=
  (filePieces 1 0 (lines contents)).flatMap (Piece.meaning dict env filename)

end Meaning

end HelpCovid.Template
