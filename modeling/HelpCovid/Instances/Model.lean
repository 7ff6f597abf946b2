import HelpCovid.Lib.CText
import HelpCovid.Lib.Machine
import Mathlib.Logic.Function.Basic

/-!
# The processes of one database

Several `helpcovid` processes share a database. Each registers itself in
`tb_helpcovidinstance` when `main` opens the database, and takes its row away in
`hcv_close_database`. A step of the model is one transaction of one process, or
one move of its main thread or its background thread; the steps of different
processes interleave freely. The step that commits the row of a process also takes its
main thread on to the start of the background thread: a signal in between is not
represented.

All processes connect as the same database user, so that `DROP OWNED BY
CURRENT_USER` drops the tables of all. A process that stops in `HCV_FATALOUT`
has no further step.
-/

namespace HelpCovid.Instances

/-- A process, by the columns `hcvinst_host` and `hcvinst_pid` of its row. -/
structure ProcessId where
  host : Text
  pid : Int
deriving Repr, DecidableEq

/-- A row of `tb_helpcovidinstance`; the other columns are never read. -/
structure InstanceRow where
  hcvinstId : Int
  hcvinstProcess : ProcessId
deriving Repr, DecidableEq

/-- `tb_helpcovidinstance` and the sequence of its `SERIAL` column. -/
structure InstanceTable where
  rows : List InstanceRow
  nextval : Int
deriving Repr, DecidableEq

/-- The table as `CREATE TABLE` makes it. -/
def InstanceTable.created : InstanceTable := ⟨[], 1⟩

/-- The largest value of a `SERIAL` column. -/
def serialMax : Int := 2147483647

/-- What a process is started with. -/
structure Options where
  /-- `hcv_should_clear_database`, for `--clear-database` -/
  shouldClearDatabase : Bool
  /-- `hcv_should_cleanup`, for `--cleanup` -/
  shouldCleanup : Bool
  /-- `hcv_initialize_web` was given an URL -/
  hasWebserver : Bool
deriving Repr, DecidableEq

/-- Where `main` is. -/
inductive MainThread where
  /-- before `hcv_initialize_database` -/
  | starting
  /-- connected, and the tables are not created yet -/
  | connected
  /-- in `hcv_webserver_run` or in `hcv_background_periodic_cleanup` -/
  | running
deriving Repr, DecidableEq

/-- Where the background thread is. -/
inductive BackgroundThread where
  | notStarted
  | polling
  /-- in `hcv_process_SIGTERM_signal`, after `hcv_stop_web` -/
  | terminating
  | ended
deriving Repr, DecidableEq

structure Process where
  options : Options
  main : MainThread
  background : BackgroundThread
  /-- `hcv_webserver` is not null -/
  webserver : Bool
  /-- `hcv_dbconn` is not null -/
  dbconn : Bool
  /-- `hcv_database_serial` -/
  databaseSerial : Int
deriving Repr, DecidableEq

/-- A process is active from its registration until it has handled `SIGTERM`. -/
def Process.isActive (pr : Process) : Bool :=
  pr.main == .running && pr.background != .ended

/-- The database and the living processes. -/
structure World where
  table : Option InstanceTable
  processes : ProcessId → Option Process

namespace World

/-- An empty database and no process. -/
def start : World := ⟨none, fun _ => none⟩

/-- The rows of `tb_helpcovidinstance`. -/
def rows (w : World) : List InstanceRow := (w.table.map InstanceTable.rows).getD []

def isActive (w : World) (p : ProcessId) : Bool := (w.processes p).any Process.isActive

def setProcess (w : World) (p : ProcessId) (pr : Option Process) : World :=
  { w with processes := Function.update w.processes p pr }

end World

/-- A step of a process. -/
inductive Action where
  /-- the program is started -/
  | start (o : Options)
  /-- `hcv_initialize_database` connects, and clears the database if told to -/
  | connect
  /-- the transaction that creates the tables and registers the process; the rest
  of `main` up to the web server or the cleanup -/
  | register
  /-- `SIGTERM` is read; `hcv_stop_web` -/
  | stopWeb
  /-- `hcv_close_database`, and the end of the background thread -/
  | closeDatabase
  /-- `hcv_webserver_run` or the cleanup is over and `main` returns -/
  | mainReturn
deriving Repr, DecidableEq

/-- `hcv_initialize_database` up to the clearing of the database. -/
def connect (w : World) (p : ProcessId) (pr : Process) : World :=
  { w.setProcess p (some { pr with main := .connected, dbconn := true }) with
    table := if pr.options.shouldClearDatabase then none else w.table }

/-- `sql_register_helpcovid_instance`: the row and the serial it gets. -/
def sqlRegisterHelpcovidInstance (table : Option InstanceTable) (p : ProcessId) :
    Option (InstanceTable × Int) :=
  -- `CREATE TABLE IF NOT EXISTS`
  let t := table.getD .created
  if t.nextval ≤ serialMax then
    -- `LASTVAL()` is the value this session has just drawn
    some (⟨t.rows ++ [⟨t.nextval, p⟩], t.nextval + 1⟩, t.nextval)
  else none

/-- The second half of `hcv_initialize_database`, and `main` up to the web server or
the cleanup. -/
def register (w : World) (p : ProcessId) (pr : Process) : Option World := do
  let (table, serial) ← sqlRegisterHelpcovidInstance w.table p
  -- `hcv_webserver_run` is fatal without a web server
  if pr.options.shouldCleanup || pr.webserver then
    some { w.setProcess p (some
        { pr with main := .running, background := .polling, databaseSerial := serial }) with
      table := some table }
  else none

/-- `sql_unregister_helpcovid_instance`; the table is missing when another process
has cleared the database. -/
def sqlUnregisterHelpcovidInstance (table : Option InstanceTable) (serial : Int) :
    Option (Option InstanceTable) :=
  if serial > 0 then
    table.map fun t => some { t with rows := t.rows.filter fun row => row.hcvinstId != serial }
  else some table

/-- `hcv_close_database`, called by the background thread. -/
def closeDatabase (w : World) (p : ProcessId) (pr : Process) : Option World := do
  let table ← sqlUnregisterHelpcovidInstance w.table pr.databaseSerial
  some { w.setProcess p (some
      { pr with background := .ended, dbconn := false, databaseSerial := 0 }) with
    table := table }

/-- A step of process `p`. -/
def step (w : World) : ProcessId × Action → Option World
  | (p, a) =>
      match a, w.processes p with
      | .start o, none => some (w.setProcess p (some ⟨o, .starting, .notStarted, o.hasWebserver,
          false, 0⟩))
      | .connect, some pr => if pr.main = .starting then some (connect w p pr) else none
      | .register, some pr => if pr.main = .connected then register w p pr else none
      | .stopWeb, some pr =>
          -- both calls assert that there is something to stop
          if pr.background = .polling ∧ pr.webserver then
            some (w.setProcess p (some { pr with background := .terminating, webserver := false }))
          else none
      | .closeDatabase, some pr =>
          if pr.background = .terminating ∧ pr.dbconn then closeDatabase w p pr else none
      -- whatever the background thread is doing ends with `main`
      | .mainReturn, some pr => if pr.main = .running then some (w.setProcess p none) else none
      | _, _ => none

/-- The steps there are. -/
theorem step_cases {w w' : World} {p : ProcessId} {a : Action} (h : step w (p, a) = some w') :
    (∃ o, a = .start o ∧ w.processes p = none ∧
      w' = w.setProcess p (some ⟨o, .starting, .notStarted, o.hasWebserver, false, 0⟩)) ∨
    ∃ pr, w.processes p = some pr ∧
      ((a = .connect ∧ pr.main = .starting ∧ w' = connect w p pr) ∨
        (a = .register ∧ pr.main = .connected ∧ register w p pr = some w') ∨
        (a = .stopWeb ∧ pr.background = .polling ∧
          w' = w.setProcess p (some { pr with background := .terminating, webserver := false })) ∨
        (a = .closeDatabase ∧ pr.background = .terminating ∧ closeDatabase w p pr = some w') ∨
        (a = .mainReturn ∧ pr.main = .running ∧ w' = w.setProcess p none)) := by
  cases hpr : w.processes p with
  | none =>
      cases a with
      | start o => exact .inl ⟨o, rfl, rfl, by simpa [step, hpr] using h.symm⟩
      | connect | register | stopWeb | closeDatabase | mainReturn => simp [step, hpr] at h
  | some pr =>
      refine .inr ⟨pr, rfl, ?_⟩
      cases a with
      | start o => simp [step, hpr] at h
      | connect | register | stopWeb | closeDatabase | mainReturn =>
          simp only [step, hpr, Option.ite_none_right_eq_some, Option.some.injEq] at h
          simp_all

end HelpCovid.Instances
