import Mathlib.Data.List.Basic

/-!
# Stored routines of PostgreSQL

A shallow embedding of the statements of plpgsql. A routine reads and changes a
database, has the time of its transaction, and has the variable `FOUND`, which
is false when the routine starts and is set by SQL statements only: not by an
assignment, also when the assigned expression is a query. A `SELECT` whose result goes
nowhere raises. An exception that no block catches undoes the call.

The rules at the end say what a call does from its first statements on.
-/

namespace Plpgsql

/-- The arguments of an error message. -/
inductive Value where
  | int (n : Int)
  | uuid (u : BitVec 128)
deriving Repr, DecidableEq

/-- The errors a routine can raise. -/
inductive SqlError where
  /-- `RAISE EXCEPTION` -/
  | raised (format : String) (args : List Value)
  /-- "query has no destination for result data" -/
  | noDestination
  /-- "more than one row returned by a subquery used as an expression" -/
  | cardinality
  /-- `foreign_key_violation` -/
  | foreignKey (column : String)
  /-- `unique_violation` -/
  | unique (column : String)
  /-- `not_null_violation` -/
  | notNull (column : String)
  /-- "value too long for type character varying" -/
  | tooLong (width : Nat)
  /-- `undefined_column`, raised when the statement is reached -/
  | undefinedColumn (name : String)
  /-- `undefined_function` -/
  | undefinedFunction (name : String)
deriving Repr, DecidableEq

/-- What a routine runs in. -/
structure Frame (σ : Type) where
  db : σ
  /-- `now()`, the time of the transaction in microseconds -/
  now : Int
  /-- `FOUND` -/
  found : Bool

/-- The body of a routine. -/
abbrev Proc (σ α : Type) := StateT (Frame σ) (Except SqlError) α

variable {σ ρ α : Type}

/-! ## Statements -/

/-- `now()` -/
def currentTime : Proc σ Int := fun f => .ok (f.now, f)

/-- `FOUND` -/
def isFound : Proc σ Bool := fun f => .ok (f.found, f)

/-- `RAISE EXCEPTION` -/
def raise (format : String) (args : List Value) : Proc σ α :=
  fun _ => .error (.raised format args)

/-- A `SELECT` that is neither assigned nor put `INTO` a variable. -/
def bareSelect (_query : σ → List ρ) : Proc σ Unit := fun _ => .error .noDestination

/-- A statement whose query names a column that none of its tables has. -/
def undefinedColumn (name : String) : Proc σ α := fun _ => .error (.undefinedColumn name)

/-- A statement that calls a function that does not exist. -/
def undefinedFunction (name : String) : Proc σ α := fun _ => .error (.undefinedFunction name)

/-- `SELECT ... INTO variable`: the first row, or a null. -/
def selectInto (query : σ → List ρ) : Proc σ (Option ρ) := fun f =>
  .ok ((query f.db).head?, { f with found := !(query f.db).isEmpty })

/-- The assignment of `(SELECT ...)` to a variable; `none` is a null. -/
def assign (query : σ → List ρ) : Proc σ (Option ρ) := fun f =>
  -- `FOUND` stays what it was
  match query f.db with
  | [] => .ok (none, f)
  | [row] => .ok (some row, f)
  | _ => .error .cardinality

/-- The value of a column `VARCHAR(width)`: blanks are cut off, anything else that
does not fit is an error. -/
def varchar (width : Nat) (value : List Char) : Proc σ (List Char) := fun f =>
  if value.length ≤ width then .ok (value, f)
  else if (value.drop width).all (· == ' ') then .ok (value.take width, f)
  else .error (.tooLong width)

/-- A table of the database. -/
structure Table (σ ρ : Type) where
  get : σ → List ρ
  set : σ → List ρ → σ
  get_set : ∀ db rows, get (set db rows) = rows

/-- `UPDATE table SET ... WHERE ...` -/
def Table.update (t : Table σ ρ) (cond : ρ → Bool) (f : ρ → ρ) : Proc σ Unit := fun fr =>
  .ok ((), { fr with
    db := t.set fr.db ((t.get fr.db).map fun row => if cond row then f row else row)
    found := (t.get fr.db).any cond })

/-- `INSERT INTO table`, with the constraints of the table on a new row. -/
def Table.insert (t : Table σ ρ) (check : σ → ρ → Except SqlError Unit) (row : ρ) :
    Proc σ Unit := fun fr =>
  match check fr.db row with
  | .error e => .error e
  | .ok () => .ok ((), { fr with db := t.set fr.db (t.get fr.db ++ [row]), found := true })

/-- `DELETE FROM table WHERE ...`; `cascade` is what the deletion of rows does to
the tables that refer to them with `ON DELETE CASCADE`. -/
def Table.delete (t : Table σ ρ) (cascade : List ρ → σ → σ) (cond : ρ → Bool) :
    Proc σ Unit := fun fr =>
  .ok ((), { fr with
    db := t.set (cascade ((t.get fr.db).filter cond) fr.db)
      ((t.get fr.db).filter fun row => !cond row)
    found := (t.get fr.db).any cond })

/-- `BEGIN ... EXCEPTION WHEN ... END`: what the block did is undone before the
handler runs. -/
def block (body : Proc σ α) (handler : SqlError → Option (Proc σ α)) : Proc σ α := fun f =>
  match body f with
  | .ok result => .ok result
  | .error e =>
      match handler e with
      | none => .error e
      -- the frame is the one the block began with
      | some h => h f

/-- A call of a routine in a transaction of its own. -/
def call (p : Proc σ α) (now : Int) (db : σ) : Except SqlError (α × σ) :=
  match p ⟨db, now, false⟩ with
  | .error e => .error e
  | .ok (result, f) => .ok (result, f.db)

/-- The database after a call: an exception leaves it as it was. -/
def after (p : Proc σ α) (now : Int) (db : σ) : σ :=
  match call p now db with
  | .error _ => db
  | .ok (_, db') => db'

/-! ## Rules -/

/-- The time of the transaction is known when a call begins. -/
theorem call_currentTime (k : Int → Proc σ α) (now : Int) (db : σ) :
    call (currentTime >>= k) now db = call (k now) now db := rfl

/-- A routine that starts with a `SELECT` without destination raises. -/
theorem call_bareSelect (query : σ → List ρ) (k : Unit → Proc σ α) (now : Int) (db : σ) :
    call (bareSelect query >>= k) now db = .error .noDestination := rfl

/-- A routine that tests `FOUND` right after an assignment never gets past the
test. -/
theorem call_assign_isFound (query : σ → List ρ) (format : String) (args : List Value)
    (k : Option ρ → Proc σ α) (now : Int) (db : σ) :
    call (assign query >>= fun v => isFound >>= fun found =>
        if found then k v else raise format args) now db =
      .error (if (query db).length ≤ 1 then .raised format args else .cardinality) := by
  simp only [call, bind, StateT.bind, assign]
  -- `FOUND` is false from the start of the call, with one row as with none
  rcases hquery : query db with _ | ⟨row, _ | ⟨row', rows⟩⟩
  · rfl
  · rfl
  · have hmany : ¬ (row :: row' :: rows).length ≤ 1 := by simp
    rw [if_neg hmany]
    rfl

/-- An `UPDATE` followed by the test of `FOUND`: the routine raises when no row
meets the condition. -/
theorem call_update_isFound (t : Table σ ρ) (cond : ρ → Bool) (f : ρ → ρ) (format : String)
    (args : List Value) (now : Int) (db : σ) :
    call (t.update cond f >>= fun _ => isFound >>= fun found =>
        if found then pure () else raise format args) now db =
      if (t.get db).any cond then
        .ok ((), t.set db ((t.get db).map fun row => if cond row then f row else row))
      else .error (.raised format args) := by
  simp only [call, bind, StateT.bind, Table.update, isFound]
  cases (t.get db).any cond <;> rfl

/-- An `INSERT` in a block with an exception handler. When a constraint of the
table fails, the handler runs where the block began. -/
theorem call_block_insert (t : Table σ ρ) (check : σ → ρ → Except SqlError Unit)
    (row : Int → ρ) (result : α) (handler : SqlError → Option (Proc σ α)) (now : Int) (db : σ) :
    call (block
        (currentTime >>= fun time => t.insert check (row time) >>= fun _ => pure result)
        handler) now db =
      match check db (row now) with
      | .ok () => .ok (result, t.set db (t.get db ++ [row now]))
      | .error e =>
          match handler e with
          | none => .error e
          | some h => call h now db := by
  simp only [call, block, bind, StateT.bind, Except.bind, currentTime, Table.insert]
  cases check db (row now) with
  | ok _ => rfl
  | error e => cases hhandler : handler e <;> simp only [hhandler]

/-- Where the handler of such a block only translates exceptions, the call
succeeds exactly when the row meets the constraints. -/
theorem call_block_insert_eq_ok_iff {t : Table σ ρ} {check : σ → ρ → Except SqlError Unit}
    {row : Int → ρ} {result r : α} {handler : SqlError → Option (Proc σ α)} {now : Int}
    {db db' : σ} (hraise : ∀ e h, handler e = some h → ∃ e', call h now db = .error e') :
    call (block
        (currentTime >>= fun time => t.insert check (row time) >>= fun _ => pure result)
        handler) now db = .ok (r, db') ↔
      check db (row now) = .ok () ∧ r = result ∧ db' = t.set db (t.get db ++ [row now]) := by
  rw [call_block_insert]
  cases check db (row now) with
  | ok _ => simp [eq_comm]
  | error e =>
      cases hhandler : handler e with
      | none => simp [hhandler]
      | some h =>
          rcases hraise e h hhandler with ⟨e', he'⟩
          simp [hhandler, he']

/-- Statements that raise wherever they are run. -/
def Raises (p : Proc σ α) : Prop := ∀ f, ∃ e, p f = .error e

theorem raises_undefinedColumn (name : String) : Raises (undefinedColumn name : Proc σ α) :=
  fun _ => ⟨_, rfl⟩

theorem raises_raise (format : String) (args : List Value) :
    Raises (raise format args : Proc σ α) := fun _ => ⟨_, rfl⟩

/-- What follows a statement that raises is not reached. -/
theorem Raises.bind {β : Type} {p : Proc σ β} (h : Raises p) (k : β → Proc σ α) :
    Raises (p >>= k) := by
  intro f
  rcases h f with ⟨e, he⟩
  exact ⟨e, by simp only [Bind.bind, StateT.bind, Except.bind, he]⟩

/-- What comes before does not help: it raises, or the rest does. -/
theorem raises_bind {β : Type} (p : Proc σ β) {k : β → Proc σ α} (h : ∀ v, Raises (k v)) :
    Raises (p >>= k) := by
  intro f
  cases hp : p f with
  | error e => exact ⟨e, by simp only [bind, StateT.bind, Except.bind, hp]⟩
  | ok r =>
      rcases h r.1 r.2 with ⟨e, he⟩
      exact ⟨e, by simp only [bind, StateT.bind, Except.bind, hp, he]⟩

theorem call_of_raises {p : Proc σ α} (h : Raises p) (now : Int) (db : σ) :
    ∃ e, call p now db = .error e := by
  rcases h ⟨db, now, false⟩ with ⟨e, he⟩
  exact ⟨e, by rw [call, he]⟩

/-- A call that raises does not return. -/
theorem call_ne_ok {p : Proc σ α} {now : Int} {db : σ} {e : SqlError}
    (h : call p now db = .error e) (r : α × σ) : call p now db ≠ .ok r := by
  rw [h]
  intro hok
  cases hok

/-- A call that raises changes nothing. -/
theorem after_of_error {p : Proc σ α} {now : Int} {db : σ} {e : SqlError}
    (h : call p now db = .error e) : after p now db = db := by
  rw [after, h]

end Plpgsql
