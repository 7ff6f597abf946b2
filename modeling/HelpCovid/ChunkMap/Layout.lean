import HelpCovid.Lib.CText
import HelpCovid.Lib.StdMap

/-!
# What a chunk map file holds

The reference for the parser: a file is a list of items, each laid out on its
own lines, and means the map that binds the name of each chunk to its body. Only
well-formed items can be built.
-/

namespace HelpCovid.ChunkMap

open CText

/-- A letter, then letters, digits and underscores. -/
def isIdent : Text → Bool
  | [] => false
  | c :: cs => c.isAlpha && cs.all isNameChar

/-- A name of at most `width` characters. -/
structure Ident (width : Nat) where
  text : Text
  isIdent_text : isIdent text = true
  length_le : text.length ≤ width
deriving DecidableEq

abbrev ChunkName := Ident 60

abbrev ChunkLabel := Ident 30

/-- The text of a line. -/
structure LineText where
  text : Text
  noNewline : '\n' ∉ text
  noNul : '\x00' ∉ text
deriving DecidableEq

/-- The line that ends a chunk. -/
def closingLine (label : ChunkLabel) : Text := ')' :: label.text ++ ['"']

/-- The lines of a chunk, none of which is its closing line. -/
structure Body (label : ChunkLabel) where
  bodyLines : List LineText
  open_ : ∀ l ∈ bodyLines, l.text ≠ closingLine label

/-- What can stand in a chunk map file. -/
inductive Item where
  | blank (spaces : LineText) (h : ∀ c ∈ spaces.text, isSpace c = true)
  | comment (s : LineText)
  | single (name : ChunkName) (body : LineText)
  | multi (name : ChunkName) (label : ChunkLabel) (body : Body label)

/-- `!NAME'BODY` -/
def singleLine (name : ChunkName) (body : LineText) : Text :=
  '!' :: name.text ++ '\'' :: body.text

/-- `!NAME"LABEL(` -/
def openingLine (name : ChunkName) (label : ChunkLabel) : Text :=
  '!' :: name.text ++ '"' :: label.text ++ ['(']

/-- The lines of an item. -/
def Item.lines : Item → List Text
  | .blank spaces _ => [spaces.text]
  | .comment s => ['#' :: s.text]
  | .single name body => [singleLine name body]
  | .multi name label body =>
      openingLine name label :: body.bodyLines.map LineText.text ++ [closingLine label]

/-- The lines of a file that holds the items. -/
def itemLines (items : List Item) : List Text := items.flatMap Item.lines

/-- What an item binds: a chunk of several lines has them joined by newlines. -/
def Item.binding : Item → Option (Text × Text)
  | .blank _ _ => none
  | .comment _ => none
  | .single name body => some (name.text, body.text)
  | .multi name _ body =>
      some (name.text, ['\n'].intercalate (body.bodyLines.map LineText.text))

def Item.isMulti : Item → Bool
  | .multi _ _ _ => true
  | _ => false

/-- The map that a file of items means: the first chunk of a name counts. -/
def meaning (items : List Item) : StdMap Text Text :=
  StdMap.insertAll ∅ (items.filterMap Item.binding)

theorem meaning_append (a b : List Item) :
    meaning (a ++ b) = StdMap.insertAll (meaning a) (b.filterMap Item.binding) := by
  unfold meaning
  rw [List.filterMap_append, StdMap.insertAll_append]

/-! ## Names and labels -/

theorem isNameChar_of_isIdent {s : Text} (h : isIdent s = true) : ∀ c ∈ s, isNameChar c = true := by
  cases s with
  | nil => simp
  | cons d ds =>
      simp only [isIdent, Bool.and_eq_true, List.all_eq_true] at h
      intro c hc
      rcases List.mem_cons.mp hc with rfl | hc
      · simp [isNameChar, Char.isAlphanum, h.1]
      · exact h.2 c hc

theorem ne_nil_of_isIdent {s : Text} (h : isIdent s = true) : s ≠ [] := by
  rintro rfl
  simp [isIdent] at h

variable {width : Nat}

/-- A name is read as a whole when no name character follows. -/
theorem Ident.scanSet_append (name : Ident width) (c : Char) (rest : Text)
    (hc : isNameChar c = false) :
    scanSet width isNameChar (name.text ++ c :: rest) = some (name.text, c :: rest) := by
  apply CText.scanSet_append
  · exact ne_nil_of_isIdent name.isIdent_text
  · exact isNameChar_of_isIdent name.isIdent_text
  · exact name.length_le
  · right
    simp [hc]

theorem Ident.notMem (name : Ident width) (c : Char) (hc : isNameChar c = false) :
    c ∉ name.text := by
  intro hmem
  have := isNameChar_of_isIdent name.isIdent_text c hmem
  simp [hc] at this

end HelpCovid.ChunkMap
