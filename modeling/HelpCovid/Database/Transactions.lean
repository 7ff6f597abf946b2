import HelpCovid.Lib.Machine

/-!
# Transactions on the shared connection

All threads share the connection `hcv_dbconn`, and `hcv_dbmtx` is meant to
serialize them. The functions take the lock with different extents:
`Hcv_PreparedStatement` holds it for its constructor only and keeps its
transaction open after it; the others hold it for their whole body.

A call is modelled as the list of its operations on the lock and the
connection, each with the destructors that unwinding runs when it throws. The
threads take turns in any order. Of libpqxx the model has that a connection
admits one transaction at a time: beginning a second one throws. Any operation
that talks to the server may throw too.
-/

namespace HelpCovid.Database

/-- An operation on `hcv_dbmtx` or on the connection. -/
inductive Op where
  | lock
  | unlock
  /-- the constructor of `pqxx::work` -/
  | beginWork
  /-- the construction of an invocation of a prepared statement -/
  | prepared
  | exec
  | commit
  /-- the destructor of `pqxx::work`, which aborts an open transaction -/
  | destroy
  /-- `hcv_dbconn.reset(nullptr)` -/
  | reset
deriving Repr, DecidableEq

/-- The operations that throw when the server or the connection fails. -/
def Op.canThrow : Op → Bool
  | .beginWork => true
  | .prepared => true
  | .exec => true
  | .commit => true
  | _ => false

/-- An operation and what unwinding does when it throws. -/
structure Instr where
  op : Op
  unwind : List Op
deriving Repr, DecidableEq

/-- `Hcv_PreparedStatement::Hcv_PreparedStatement`, `query` and the destructor.
The destructor does not run when the constructor throws. -/
def preparedStatement : List Instr :=
  [⟨.lock, []⟩, ⟨.beginWork, [.unlock]⟩, ⟨.prepared, [.unlock]⟩, ⟨.unlock, []⟩,
    ⟨.exec, [.destroy]⟩, ⟨.commit, [.destroy]⟩, ⟨.destroy, []⟩]

/-- The functions that use the connection. -/
inductive Function where
  | userModelAuthenticate
  | userModelCreate
  | databaseWithKnownEmail
  | databaseGetIdOfAddedWebCookie
  | closeDatabase
deriving Repr, DecidableEq

/-- The operations of a call that gets to the database. -/
def Function.program : Function → List Instr
  | .userModelAuthenticate => preparedStatement
  | .userModelCreate => preparedStatement
  | .databaseWithKnownEmail =>
      [⟨.lock, []⟩, ⟨.beginWork, [.unlock]⟩, ⟨.exec, [.destroy, .unlock]⟩,
        ⟨.commit, [.destroy, .unlock]⟩, ⟨.destroy, []⟩, ⟨.unlock, []⟩]
  | .databaseGetIdOfAddedWebCookie =>
      [⟨.lock, []⟩, ⟨.beginWork, [.unlock]⟩, ⟨.exec, [.destroy, .unlock]⟩,
        ⟨.exec, [.destroy, .unlock]⟩, ⟨.commit, [.destroy, .unlock]⟩, ⟨.destroy, []⟩,
        ⟨.unlock, []⟩]
  | .closeDatabase =>
      [⟨.lock, []⟩, ⟨.beginWork, [.unlock]⟩, ⟨.exec, [.destroy, .unlock]⟩,
        ⟨.commit, [.destroy, .unlock]⟩, ⟨.destroy, []⟩, ⟨.reset, []⟩, ⟨.unlock, []⟩]

variable {Tid : Type*} [DecidableEq Tid]

structure State (Tid : Type*) where
  /-- the owner of `hcv_dbmtx`; no function takes it twice -/
  lockOwner : Option Tid
  /-- `hcv_dbconn` is not null -/
  connected : Bool
  /-- the owners of the transactions that are open on the connection -/
  openTxns : List Tid
  /-- what each thread has still to do in its current call -/
  code : Tid → List Instr
  crashed : Bool

/-- All threads are idle. -/
def State.start : State Tid := ⟨none, true, [], fun _ => [], false⟩

/-- A thread goes on with other code. -/
def State.goto (s : State Tid) (t : Tid) (code : List Instr) : State Tid :=
  { s with code := Function.update s.code t code }

/-- The code after a throw. -/
def Instr.unwinding (i : Instr) : List Instr := i.unwind.map fun op => ⟨op, []⟩

/-- The effect of an operation that does not throw; `none` when the thread has to
wait. A null connection crashes the process. -/
def runInstr (s : State Tid) (t : Tid) (i : Instr) (rest : List Instr) : Option (State Tid) :=
  match i.op with
  | .lock =>
      if s.lockOwner = none then some { s.goto t rest with lockOwner := some t } else none
  | .unlock => some { s.goto t rest with lockOwner := none }
  | .beginWork =>
      if !s.connected then some { s with crashed := true }
      else if s.openTxns = [] then some { s.goto t rest with openTxns := [t] }
      -- another transaction is open
      else some (s.goto t i.unwinding)
  | .prepared => some (s.goto t rest)
  | .exec => some (s.goto t rest)
  | .commit => some { s.goto t rest with openTxns := s.openTxns.filter (· ≠ t) }
  | .destroy => some { s.goto t rest with openTxns := s.openTxns.filter (· ≠ t) }
  | .reset => some { s.goto t rest with connected := false }

inductive Action (Tid : Type*) where
  /-- an idle thread calls a function -/
  | call (t : Tid) (f : Function)
  /-- a thread does its next operation -/
  | run (t : Tid)
  /-- the next operation of a thread throws -/
  | throw (t : Tid)

def step (s : State Tid) : Action Tid → Option (State Tid)
  | .call t f =>
      if s.crashed = false ∧ s.code t = [] then some (s.goto t f.program) else none
  | .run t =>
      match s.code t with
      | [] => none
      | i :: rest => if s.crashed then none else runInstr s t i rest
  | .throw t =>
      match s.code t with
      | [] => none
      | i :: _ =>
          if s.crashed = false ∧ i.op.canThrow = true then some (s.goto t i.unwinding) else none

@[simp] theorem goto_code_self (s : State Tid) (t : Tid) (code : List Instr) :
    (s.goto t code).code t = code := Function.update_self ..

@[simp] theorem goto_code_of_ne (s : State Tid) {t u : Tid} (code : List Instr) (h : u ≠ t) :
    (s.goto t code).code u = s.code u := Function.update_of_ne h ..

@[simp] theorem goto_lockOwner (s : State Tid) (t : Tid) (code : List Instr) :
    (s.goto t code).lockOwner = s.lockOwner := rfl

@[simp] theorem goto_openTxns (s : State Tid) (t : Tid) (code : List Instr) :
    (s.goto t code).openTxns = s.openTxns := rfl

end HelpCovid.Database
