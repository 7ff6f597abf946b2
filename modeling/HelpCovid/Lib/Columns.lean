import HelpCovid.Lib.CText

/-!
# Columns and their constraints

What `CREATE TABLE` says about the columns of a table, and when the values that an
`INSERT` gives to some of them meet it. A type that is not treated here is known
by its input function, a parameter.
-/

namespace Sql

/-- The types of columns. -/
inductive ColumnType where
  /-- `VARCHAR(n)` -/
  | varchar (width : Nat)
  /-- `CREATE TYPE .. AS ENUM` -/
  | enum (labels : List Text)
  | other (typeName : String)
deriving Repr, DecidableEq

/-- A column of a table. -/
structure Column where
  name : String
  type : ColumnType
  notNull : Bool
  hasDefault : Bool
deriving Repr, DecidableEq

section Meets

variable (input : String → Text → Bool)

/-- A text is a value of the type; blanks past the width of a `VARCHAR` are cut. -/
def ColumnType.Accepts : ColumnType → Text → Prop
  | .varchar width, v => ∀ c ∈ v.drop width, c = ' '
  | .enum labels, v => v ∈ labels
  | .other typeName, v => input typeName v = true

/-- The value given to a column, or that it is left out, meets the constraints. -/
def Column.MeetsWith (column : Column) : Option Text → Prop
  | some v => column.type.Accepts input v
  | none => column.notNull = true → column.hasDefault = true

/-- The values given to some columns meet the constraints of all. -/
def Meets (columns : List Column) (given : List (String × Text)) : Prop :=
  ∀ column ∈ columns, column.MeetsWith input (given.lookup column.name)

/-- A column that must not be null and has no default cannot be left out. -/
theorem not_meets_of_omitted {columns : List Column} {given : List (String × Text)}
    {column : Column} (hmem : column ∈ columns) (hnull : column.notNull = true)
    (hdefault : column.hasDefault = false) (homitted : given.lookup column.name = none) :
    ¬ Meets input columns given := by
  intro hmeets
  have hcolumn := hmeets column hmem
  rw [homitted] at hcolumn
  have htrue : column.hasDefault = true := hcolumn hnull
  rw [hdefault] at htrue
  exact absurd htrue Bool.false_ne_true

end Meets

end Sql
