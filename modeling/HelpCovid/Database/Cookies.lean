import HelpCovid.Database.Statements
import HelpCovid.Lib.Ledger
import HelpCovid.Web.CookieForm

/-!
# The cookies of several processes

`hcv_database_get_id_of_added_web_cookie` inserts a row in `tb_web_cookie` and asks
`LASTVAL()` for its id. That value belongs to the connection: any statement in between
that takes a number from a sequence, of whatever table, changes it. The processes that
serve the site have one connection each and share the database; the threads of a process
share its connection, and take turns as in `Database.Transactions`. Any statement may
fail, and a commit may fail after its rows were stored.

Each process is in one of the states of `Database.Transactions` with the value of
`LASTVAL()` and how far each thread is in its call. Every call is given the id of its own
row, and no two cookies of the site are equal (`cookies_distinct`), since the registry
goes through the transitions of a ledger (`Registry.transitions_of_account`). A failed call aborts
its process in `hcv_web_make_cookie_string`; here the process may also go on.
-/

namespace HelpCovid.Database

open CText Web

/-! ## The registry -/

/-- What `hcv_database_get_id_of_added_web_cookie` is called with. -/
structure CookieCall where
  randomstr : Text
  exptime : Nat
  webagenthash : BitVec 32
  random : IsRandomstr randomstr

/-- How far a thread is with a call. -/
inductive Progress where
  /-- in another function, or in none -/
  | idle
  | called (call : CookieCall)
  /-- the row of the id `own` is inserted, in the open transaction -/
  | inserted (call : CookieCall) (own : Nat)
  /-- `LASTVAL()` gave `id` -/
  | read (call : CookieCall) (own id : Nat)
  /-- the transaction is committed -/
  | stored (call : CookieCall) (own id : Nat)
  | failed (call : CookieCall)

/-- A process that serves the site. -/
structure Process (Tid : Type*) where
  control : State Tid
  /-- `LASTVAL()` of its connection -/
  lastval : Option Nat
  progress : Tid → Progress

def Process.start {Tid : Type*} : Process Tid := ⟨.start, none, fun _ => .idle⟩

/-- The database with the processes: the last number of `wcookie_id`, the committed rows
with their ids, and what the calls returned, `none` for -2. -/
structure Registry (Pid Tid : Type*) where
  sequence : Nat
  rows : List (Nat × CookieCall)
  processes : Pid → Process Tid
  returned : List (CookieCall × Option Nat)

/-- What an operation of a thread can read and change, besides the lock. -/
structure Books where
  sequence : Nat
  rows : List (Nat × CookieCall)
  returned : List (CookieCall × Option Nat)
  lastval : Option Nat
  progress : Progress

/-- An operation that does not throw. The id is an `INT`: past its maximum the `INSERT`
fails, and so does `LASTVAL()` before the first number was taken. Another function may
take the number `nextval` from a sequence of its own. -/
def account (b : Books) (op : Op) (nextval : Option Nat) : Option Books :=
  match op, b.progress with
  | .exec, .idle => some { b with lastval := nextval.or b.lastval }
  | .exec, .called call =>
      if b.sequence + 1 < 2 ^ 31 then
        some { b with
          sequence := b.sequence + 1
          lastval := some (b.sequence + 1)
          progress := .inserted call (b.sequence + 1) }
      else none
  | .exec, .inserted call own => b.lastval.map fun id => { b with progress := .read call own id }
  | .commit, .read call own id =>
      some { b with rows := b.rows ++ [(own, call)], progress := .stored call own id }
  | .unlock, .called call =>
      some { b with returned := b.returned ++ [(call, none)], progress := .idle }
  | .unlock, .failed call =>
      some { b with returned := b.returned ++ [(call, none)], progress := .idle }
  | .unlock, .stored call _ id =>
      some { b with returned := b.returned ++ [(call, some id)], progress := .idle }
  | _, _ => some b

/-- An operation that throws; `inDoubt` when it is a commit whose rows are stored all the
same. -/
def undo (b : Books) (inDoubt : Bool) : Books :=
  match b.progress with
  | .called call => { b with progress := .failed call }
  | .inserted call _ => { b with progress := .failed call }
  | .read call own _ =>
      { b with
        rows := if inDoubt then b.rows ++ [(own, call)] else b.rows
        progress := .failed call }
  | _ => b

namespace Registry

variable {Pid Tid : Type*}

/-- A database with an empty table, and processes that have not used it. -/
def start : Registry Pid Tid := ⟨0, [], fun _ => .start, []⟩

def books (s : Registry Pid Tid) (p : Pid) (t : Tid) : Books :=
  ⟨s.sequence, s.rows, s.returned, (s.processes p).lastval, (s.processes p).progress t⟩

inductive Action (Pid Tid : Type*) where
  /-- an idle thread asks for a cookie -/
  | register (p : Pid) (t : Tid) (call : CookieCall)
  /-- an idle thread calls another function -/
  | call (p : Pid) (t : Tid) (f : Function)
  /-- a thread does its next operation -/
  | run (p : Pid) (t : Tid) (nextval : Option Nat)
  /-- the next operation of a thread throws -/
  | throw (p : Pid) (t : Tid) (inDoubt : Bool)

/-- The operation that a thread is about to do. -/
def op? (s : Registry Pid Tid) (p : Pid) (t : Tid) : Option Op :=
  ((s.processes p).control.code t).head?.map Instr.op

theorem op?_eq {s : Registry Pid Tid} {p : Pid} {t : Tid} {i : Instr} {rest : List Instr}
    (h : (s.processes p).control.code t = i :: rest) : s.op? p t = some i.op := by
  rw [op?, h]
  rfl

variable [DecidableEq Pid] [DecidableEq Tid]

/-- A thread has done something. -/
def settle (s : Registry Pid Tid) (p : Pid) (t : Tid) (control : State Tid) (b : Books) :
    Registry Pid Tid where
  sequence := b.sequence
  rows := b.rows
  processes := Function.update s.processes p
    ⟨control, b.lastval, Function.update (s.processes p).progress t b.progress⟩
  returned := b.returned

def step (s : Registry Pid Tid) : Action Pid Tid → Option (Registry Pid Tid)
  | .register p t call =>
      (Database.step (s.processes p).control (.call t .databaseGetIdOfAddedWebCookie)).map
        fun control => s.settle p t control { s.books p t with progress := .called call }
  | .call p t f =>
      if f = .databaseGetIdOfAddedWebCookie then none
      else
        (Database.step (s.processes p).control (.call t f)).map fun control =>
          s.settle p t control (s.books p t)
  | .run p t nextval =>
      (s.op? p t).bind fun op =>
        (Database.step (s.processes p).control (.run t)).bind fun control =>
          (account (s.books p t) op nextval).map (s.settle p t control)
  | .throw p t inDoubt =>
      (s.op? p t).bind fun op =>
        (Database.step (s.processes p).control (.throw t)).map fun control =>
          s.settle p t control (undo (s.books p t) (inDoubt && op == .commit))

/-- The cookies that were made of the ids. -/
def cookies (s : Registry Pid Tid) : List (Option Text) :=
  s.returned.filterMap fun (call, id) =>
    id.map fun id => makeCookieString (.ofNat 64 id) call.randomstr call.webagenthash

end Registry

/-! ## A thread and its call -/

section Code

/-- What is left to do of a call, from its end. -/
def returning : List Instr := [⟨.unlock, []⟩]

def ending : List Instr := ⟨.destroy, []⟩ :: returning

def committing : List Instr := ⟨.commit, [.destroy, .unlock]⟩ :: ending

def asking : List Instr := ⟨.exec, [.destroy, .unlock]⟩ :: committing

def inserting : List Instr := ⟨.exec, [.destroy, .unlock]⟩ :: asking

def beginning : List Instr := ⟨.beginWork, [.unlock]⟩ :: inserting

/-- The program of `databaseGetIdOfAddedWebCookie`. -/
def locking : List Instr := ⟨.lock, []⟩ :: beginning

/-- How far a thread is, and the code it has left. -/
inductive Follows : Progress → List Instr → Prop
  | idle (code : List Instr) : Follows .idle code
  | called (call : CookieCall) : Follows (.called call) locking
  | locked (call : CookieCall) : Follows (.called call) beginning
  | begun (call : CookieCall) : Follows (.called call) inserting
  /-- another transaction was open -/
  | refused (call : CookieCall) : Follows (.called call) returning
  | inserted (call : CookieCall) (own : Nat) : Follows (.inserted call own) asking
  | read (call : CookieCall) (own id : Nat) : Follows (.read call own id) committing
  | stored (call : CookieCall) (own id : Nat) : Follows (.stored call own id) ending
  | ended (call : CookieCall) (own id : Nat) : Follows (.stored call own id) returning
  | failed (call : CookieCall) : Follows (.failed call) ending
  | undone (call : CookieCall) : Follows (.failed call) returning

/-- The id that a thread is given is the one of its row. -/
def Progress.Own (lastval : Option Nat) : Progress → Prop
  | .inserted _ own => lastval = some own
  | .read _ own id => id = own
  | .stored _ own id => id = own
  | _ => True

/-- The code after an operation that does not throw: a transaction that cannot begin
unwinds, and without a connection the process crashes. -/
def Next (i : Instr) (rest code : List Instr) : Prop :=
  code = rest ∨ i.op = .beginWork ∧ (code = i.unwinding ∨ code = i :: rest)

theorem Next.eq_rest {i : Instr} {rest code : List Instr} (h : Next i rest code)
    (hop : i.op ≠ .beginWork) : code = rest := by
  rcases h with h | ⟨hbegin, -⟩
  · exact h
  · exact absurd hbegin hop

theorem account_idle {b b' : Books} {op : Op} {nextval : Option Nat} (hb : b.progress = .idle)
    (h : account b op nextval = some b') : b' = { b with lastval := b'.lastval } := by
  rcases b with ⟨sequence, rows, returned, lastval, progress⟩
  obtain rfl : progress = .idle := hb
  cases op <;> exact Option.some.inj h ▸ rfl

theorem Follows.account {b b' : Books} {i : Instr} {rest code : List Instr}
    {nextval : Option Nat} (hf : Follows b.progress (i :: rest)) (hown : b.progress.Own b.lastval)
    (h : account b i.op nextval = some b') (hnext : Next i rest code) :
    Follows b'.progress code ∧ b'.progress.Own b'.lastval := by
  rcases b with ⟨sequence, rows, returned, lastval, progress⟩
  generalize hcode : i :: rest = all at hf
  cases hf with
  | idle _ =>
      rw [account_idle rfl h]
      exact ⟨.idle _, trivial⟩
  | called call =>
      rcases List.cons.inj hcode with ⟨rfl, rfl⟩
      rw [hnext.eq_rest (by decide)]
      exact Option.some.inj h ▸ ⟨.locked call, trivial⟩
  | locked call =>
      rcases List.cons.inj hcode with ⟨rfl, rfl⟩
      obtain rfl := Option.some.inj h
      rcases hnext with rfl | ⟨-, rfl | rfl⟩
      · exact ⟨.begun call, trivial⟩
      · exact ⟨.refused call, trivial⟩
      · exact ⟨.locked call, trivial⟩
  | begun call =>
      rcases List.cons.inj hcode with ⟨rfl, rfl⟩
      rw [hnext.eq_rest (by decide)]
      rcases Option.ite_none_right_eq_some.mp h with ⟨-, hb⟩
      exact Option.some.inj hb ▸ ⟨.inserted call _, rfl⟩
  | inserted call own =>
      rcases List.cons.inj hcode with ⟨rfl, rfl⟩
      rw [hnext.eq_rest (by decide)]
      obtain rfl : lastval = some own := hown
      exact Option.some.inj h ▸ ⟨.read call own own, rfl⟩
  | read call own id =>
      rcases List.cons.inj hcode with ⟨rfl, rfl⟩
      rw [hnext.eq_rest (by decide)]
      exact Option.some.inj h ▸ ⟨.stored call own id, hown⟩
  | stored call own id =>
      rcases List.cons.inj hcode with ⟨rfl, rfl⟩
      rw [hnext.eq_rest (by decide)]
      exact Option.some.inj h ▸ ⟨.ended call own id, hown⟩
  | failed call =>
      rcases List.cons.inj hcode with ⟨rfl, rfl⟩
      rw [hnext.eq_rest (by decide)]
      exact Option.some.inj h ▸ ⟨.undone call, trivial⟩
  -- the call returns
  | refused call =>
      rcases List.cons.inj hcode with ⟨rfl, rfl⟩
      exact Option.some.inj h ▸ ⟨.idle _, trivial⟩
  | ended call own id =>
      rcases List.cons.inj hcode with ⟨rfl, rfl⟩
      exact Option.some.inj h ▸ ⟨.idle _, trivial⟩
  | undone call =>
      rcases List.cons.inj hcode with ⟨rfl, rfl⟩
      exact Option.some.inj h ▸ ⟨.idle _, trivial⟩

/-- An operation that throws leaves a call that failed. -/
theorem Follows.undo {b : Books} {i : Instr} {rest : List Instr}
    (hf : Follows b.progress (i :: rest)) (hcan : i.op.canThrow = true) (inDoubt : Bool) :
    Follows (undo b inDoubt).progress i.unwinding ∧
      (undo b inDoubt).progress.Own (undo b inDoubt).lastval := by
  rcases b with ⟨sequence, rows, returned, lastval, progress⟩
  generalize hcode : i :: rest = all at hf
  cases hf with
  | idle _ => exact ⟨.idle _, trivial⟩
  | locked call =>
      rcases List.cons.inj hcode with ⟨rfl, rfl⟩
      exact ⟨.undone call, trivial⟩
  | begun call =>
      rcases List.cons.inj hcode with ⟨rfl, rfl⟩
      exact ⟨.failed call, trivial⟩
  | inserted call own =>
      rcases List.cons.inj hcode with ⟨rfl, rfl⟩
      exact ⟨.failed call, trivial⟩
  | read call own id =>
      rcases List.cons.inj hcode with ⟨rfl, rfl⟩
      exact ⟨.failed call, trivial⟩
  -- the other operations do not throw
  | called call =>
      rcases List.cons.inj hcode with ⟨rfl, rfl⟩
      cases hcan
  | refused call =>
      rcases List.cons.inj hcode with ⟨rfl, rfl⟩
      cases hcan
  | stored call own id =>
      rcases List.cons.inj hcode with ⟨rfl, rfl⟩
      cases hcan
  | ended call own id =>
      rcases List.cons.inj hcode with ⟨rfl, rfl⟩
      cases hcan
  | failed call =>
      rcases List.cons.inj hcode with ⟨rfl, rfl⟩
      cases hcan
  | undone call =>
      rcases List.cons.inj hcode with ⟨rfl, rfl⟩
      cases hcan

/-- A thread without code is in no call. -/
theorem Follows.eq_idle {progress : Progress} {code : List Instr} (h : Follows progress code)
    (hcode : code = []) : progress = .idle := by
  cases h with
  | idle _ => rfl
  | _ => cases hcode

/-- A thread that is before `LASTVAL()` executes it next. -/
theorem Follows.exec {progress : Progress} {code : List Instr} (h : Follows progress code)
    {call : CookieCall} {own : Nat} (hp : progress = .inserted call own) :
    ∃ i rest, code = i :: rest ∧ i.op.inTxn = true := by
  cases h with
  | inserted call' own' => exact ⟨_, _, rfl, rfl⟩
  | _ => cases hp

end Code

/-! ## A process -/

section Process

variable {Tid : Type*}

/-- A process in which every thread is where its call is, and gets the id of its row. -/
structure Accounted (process : Process Tid) : Prop where
  serialized : Serialized process.control
  bracketed : Bracketed process.control
  follows : ∀ t, Follows (process.progress t) (process.control.code t)
  own : ∀ t, (process.progress t).Own process.lastval

namespace Accounted

theorem start : Accounted (.start : Process Tid) where
  serialized := .start
  bracketed := .start
  follows _ := .idle _
  own _ := trivial

variable {process : Process Tid}

/-- While a thread is inside its transaction no other is before `LASTVAL()`. -/
theorem not_inserted (h : Accounted process) {t : Tid} {i : Instr} {rest : List Instr}
    (hcode : process.control.code t = i :: rest) (hi : i.op.inTxn = true) {u : Tid}
    (hne : u ≠ t) (call : CookieCall) (own : Nat) : process.progress u ≠ .inserted call own := by
  intro hu
  rcases (h.follows u).exec hu with ⟨j, rest', hj, hin⟩
  exact hne (executing_unique h.serialized h.bracketed hj hcode hin hi)

end Accounted

variable [DecidableEq Tid]

theorem next_of_run {s s' : State Tid} {t : Tid} {i : Instr} {rest : List Instr}
    (hcode : s.code t = i :: rest) (h : runInstr s t i rest = some s') :
    ∃ code, s'.code = Function.update s.code t code ∧ Next i rest code := by
  unfold runInstr at h
  cases hop : i.op with
  | beginWork =>
      simp only [hop] at h
      split at h
      · obtain rfl := Option.some.inj h
        exact ⟨_, (hcode ▸ Function.update_eq_self t s.code).symm, .inr ⟨hop, .inr rfl⟩⟩
      · split at h
        · obtain rfl := Option.some.inj h
          exact ⟨_, rfl, .inl rfl⟩
        · obtain rfl := Option.some.inj h
          exact ⟨_, rfl, .inr ⟨hop, .inl rfl⟩⟩
  | lock =>
      simp only [hop, Option.ite_none_right_eq_some, Option.some.injEq] at h
      exact ⟨_, h.2 ▸ rfl, .inl rfl⟩
  | _ =>
      simp only [hop, Option.some.injEq] at h
      exact ⟨_, h ▸ rfl, .inl rfl⟩

/-- The step of one thread; the others have no number to lose. -/
theorem Accounted.advance {process : Process Tid} (h : Accounted process) {t : Tid}
    {a : Action Tid} {control : State Tid}
    {code : List Instr} {progress : Progress} {lastval : Option Nat}
    (hstep : Database.step process.control a = some control)
    (hcode : control.code = Function.update process.control.code t code)
    (hf : Follows progress code) (hown : progress.Own lastval)
    (hkeep : lastval = process.lastval ∨
      ∀ u, u ≠ t → ∀ call own, process.progress u ≠ .inserted call own) :
    Accounted ⟨control, lastval, Function.update process.progress t progress⟩ where
  serialized := h.serialized.step hstep
  bracketed := h.bracketed.step hstep
  follows := by
    intro u
    by_cases hu : u = t
    · subst hu
      simpa only [hcode, Function.update_self] using hf
    · simpa only [hcode, Function.update_of_ne hu] using h.follows u
  own := by
    refine (Function.forall_update_iff process.progress fun _ p => p.Own lastval).mpr ⟨hown, ?_⟩
    intro u hu
    have hother := h.own u
    cases hp : process.progress u with
    | inserted call own =>
        rw [hp] at hother
        rcases hkeep with hsame | hnone
        · exact hsame.trans hother
        · exact absurd hp (hnone u hu call own)
    | read call own id =>
        rw [hp] at hother
        exact hother
    | stored call own id =>
        rw [hp] at hother
        exact hother
    | _ => trivial

theorem account_lastval {b b' : Books} {op : Op} {nextval : Option Nat}
    (h : account b op nextval = some b') : b'.lastval = b.lastval ∨ op = .exec := by
  unfold account at h
  split at h
  case h_1 => exact .inr rfl
  case h_2 => exact .inr rfl
  case h_3 => exact .inr rfl
  all_goals exact .inl (Option.some.inj h ▸ rfl)

theorem account_sequence {b b' : Books} {op : Op} {nextval : Option Nat}
    (h : account b op nextval = some b') (hb : b.sequence < 2 ^ 31) : b'.sequence < 2 ^ 31 := by
  unfold account at h
  split at h
  case h_2 =>
    rcases Option.ite_none_right_eq_some.mp h with ⟨hlt, hb'⟩
    exact Option.some.inj hb' ▸ hlt
  case h_3 =>
    rcases Option.map_eq_some_iff.mp h with ⟨id, -, rfl⟩
    exact hb
  all_goals exact Option.some.inj h ▸ hb

theorem undo_frame (b : Books) (inDoubt : Bool) :
    (undo b inDoubt).lastval = b.lastval ∧ (undo b inDoubt).sequence = b.sequence := by
  unfold undo
  split <;> exact ⟨rfl, rfl⟩

end Process

/-! ## The ledger of the registry -/

def Progress.holding : Progress → Ledger.Holding CookieCall
  | .inserted call own => .taken own call
  | .read call own _ => .taken own call
  | .stored call own _ => .stored own call
  | _ => .nothing

/-- The ids that were returned, with their calls. -/
def givenOf (returned : List (CookieCall × Option Nat)) : List (Nat × CookieCall) :=
  returned.filterMap fun (call, id) => id.map (·, call)

namespace Registry

variable {Pid Tid : Type*}

/-- The agents are the threads of all processes. -/
def ledger (s : Registry Pid Tid) : Ledger.State (Pid × Tid) CookieCall where
  sequence := s.sequence
  holding k := ((s.processes k.1).progress k.2).holding
  rows := s.rows
  given := givenOf s.returned

theorem cookies_eq (s : Registry Pid Tid) :
    s.cookies = s.ledger.given.map fun row =>
      makeCookieString (.ofNat 64 row.1) row.2.randomstr row.2.webagenthash := by
  unfold cookies ledger givenOf
  rw [List.map_filterMap]
  refine List.filterMap_congr fun e _ => ?_
  rw [Option.map_map]
  rfl

/-- What holds of the registry in every order of the threads. -/
structure Sound (s : Registry Pid Tid) : Prop where
  accounted : ∀ p, Accounted (s.processes p)
  sequence_lt : s.sequence < 2 ^ 31
  fresh : Ledger.Fresh s.ledger

theorem Sound.start : Sound (.start : Registry Pid Tid) where
  accounted _ := .start
  sequence_lt := Nat.two_pow_pos 31
  fresh :=
    { good := fun _ => trivial
      apart := nofun
      rows := nofun
      rows_nodup := .nil
      given := nofun
      given_nodup := .nil }

variable [DecidableEq Pid] [DecidableEq Tid]

theorem ledger_settle (s : Registry Pid Tid) (p : Pid) (t : Tid) (control : State Tid)
    (b : Books) :
    (s.settle p t control b).ledger =
      ⟨b.sequence, Function.update s.ledger.holding (p, t) b.progress.holding, b.rows,
        givenOf b.returned⟩ := by
  refine Ledger.State.ext rfl (funext fun k => ?_) rfl rfl
  rcases k with ⟨p', t'⟩
  by_cases hp : p' = p
  · subst hp
    by_cases ht : t' = t
    · subst ht
      simp [settle, ledger]
    · simp [settle, ledger, ht]
  · simp [settle, ledger, hp]

/-- What leaves the holding of the thread leaves the ledger. -/
theorem ledger_keep {s : Registry Pid Tid} {p : Pid} {t : Tid} {b : Books}
    (control : State Tid) (hseq : b.sequence = s.sequence) (hrows : b.rows = s.rows)
    (hgiven : givenOf b.returned = givenOf s.returned)
    (hholding : b.progress.holding = s.ledger.holding (p, t)) :
    (s.settle p t control b).ledger = s.ledger := by
  rw [ledger_settle, hseq, hrows, hgiven, hholding, Function.update_eq_self]
  rfl

theorem givenOf_concat (returned : List (CookieCall × Option Nat)) (call : CookieCall)
    (id : Option Nat) :
    givenOf (returned ++ [(call, id)]) = givenOf returned ++ (id.map (·, call)).toList := by
  cases id <;> simp [givenOf, List.filterMap_append]

open Ledger Relation in
/-- An operation is a transition of the ledger, or none. -/
theorem transitions_of_account {s : Registry Pid Tid} {p : Pid} {t : Tid} {op : Op}
    {nextval : Option Nat} {b : Books} (control : State Tid)
    (hown : ((s.processes p).progress t).Own (s.processes p).lastval)
    (h : account (s.books p t) op nextval = some b) :
    ReflTransGen Transition s.ledger (s.settle p t control b).ledger := by
  have hheld : ∀ progress, (s.books p t).progress = progress →
      s.ledger.holding (p, t) = progress.holding := fun _ hp => congrArg Progress.holding hp
  unfold account at h
  split at h
  · next hp =>
      obtain rfl := Option.some.inj h
      rw [ledger_keep control rfl rfl rfl rfl]
  · next call hp =>
      rcases Option.ite_none_right_eq_some.mp h with ⟨-, hb⟩
      obtain rfl := Option.some.inj hb
      rw [ledger_settle]
      exact .single (.take (p, t) call (hheld _ hp))
  · next call own hp =>
      rcases Option.map_eq_some_iff.mp h with ⟨id, -, rfl⟩
      rw [ledger_keep control rfl rfl rfl (hheld _ hp).symm]
  · next call own id hp =>
      obtain rfl := Option.some.inj h
      rw [ledger_settle]
      exact .single (.store (p, t) (hheld _ hp))
  · next call hp =>
      obtain rfl := Option.some.inj h
      rw [ledger_keep control rfl rfl (by simp [givenOf_concat, books]) (hheld _ hp).symm]
  · next call hp =>
      obtain rfl := Option.some.inj h
      rw [ledger_keep control rfl rfl (by simp [givenOf_concat, books]) (hheld _ hp).symm]
  · next call own id hp =>
      obtain rfl := Option.some.inj h
      have hid : id = own := by
        rw [show (s.processes p).progress t = _ from hp] at hown
        exact hown
      rw [ledger_settle, givenOf_concat, hid]
      exact .single (.give (p, t) (hheld _ hp))
  · obtain rfl := Option.some.inj h
    rw [ledger_keep control rfl rfl rfl rfl]

open Ledger Relation in
/-- An operation that throws gives up the id, in doubt after its row was stored. -/
theorem transitions_of_undo (s : Registry Pid Tid) (p : Pid) (t : Tid) (control : State Tid)
    (inDoubt : Bool) :
    ReflTransGen Transition s.ledger
      (s.settle p t control (undo (s.books p t) inDoubt)).ledger := by
  have hheld : ∀ progress, (s.books p t).progress = progress →
      s.ledger.holding (p, t) = progress.holding := fun _ hp => congrArg Progress.holding hp
  unfold undo
  split
  · next call hp => rw [ledger_keep control rfl rfl rfl (hheld _ hp).symm]
  · next call own hp =>
      rw [ledger_settle]
      exact .single (.drop (p, t))
  · next call own id hp =>
      rw [ledger_settle]
      cases inDoubt with
      | false => exact .single (.drop (p, t))
      | true => exact transitions_abandon (hheld _ hp)
  · rw [ledger_keep control rfl rfl rfl rfl]

/-! ## Every run -/

namespace Sound

variable {s s' : Registry Pid Tid}

theorem settle (h : Sound s) {p : Pid} {t : Tid} {control : State Tid} {b : Books}
    (hacc : Accounted
      ⟨control, b.lastval, Function.update (s.processes p).progress t b.progress⟩)
    (hlt : b.sequence < 2 ^ 31)
    (hledger : Relation.ReflTransGen Ledger.Transition s.ledger (s.settle p t control b).ledger) :
    Sound (s.settle p t control b) where
  accounted := (Function.forall_update_iff s.processes fun _ => Accounted).mpr
    ⟨hacc, fun p' _ => h.accounted p'⟩
  sequence_lt := hlt
  fresh := h.fresh.transitions hledger

theorem step (h : Sound s) {a : Action Pid Tid} (hstep : s.step a = some s') : Sound s' := by
  cases a with
  | register p t call =>
      rcases Option.map_eq_some_iff.mp hstep with ⟨control, hcontrol, rfl⟩
      rcases step_call hcontrol with ⟨hnil, rfl⟩
      have hidle := ((h.accounted p).follows t).eq_idle hnil
      refine h.settle ((h.accounted p).advance hcontrol rfl (.called call) trivial (.inl rfl))
        h.sequence_lt ?_
      rw [ledger_keep _ rfl rfl rfl (congrArg Progress.holding hidle).symm]
  | call p t f =>
      rcases Option.ite_none_left_eq_some.mp hstep with ⟨-, hstep⟩
      rcases Option.map_eq_some_iff.mp hstep with ⟨control, hcontrol, rfl⟩
      rcases step_call hcontrol with ⟨hnil, rfl⟩
      have hidle : (s.books p t).progress = .idle :=
        ((h.accounted p).follows t).eq_idle hnil
      refine h.settle ((h.accounted p).advance hcontrol rfl (hidle ▸ .idle _) (hidle ▸ trivial)
        (.inl rfl)) h.sequence_lt ?_
      rw [ledger_keep _ rfl rfl rfl rfl]
  | run p t nextval =>
      rcases Option.bind_eq_some_iff.mp hstep with ⟨op, hop, hstep⟩
      rcases Option.bind_eq_some_iff.mp hstep with ⟨control, hcontrol, hstep⟩
      rcases Option.map_eq_some_iff.mp hstep with ⟨b, hb, rfl⟩
      rcases step_run hcontrol with ⟨i, rest, hi, hrun⟩
      obtain rfl := Option.some.inj ((op?_eq hi).symm.trans hop)
      rcases next_of_run hi hrun with ⟨code, hcode, hnext⟩
      have hown := (h.accounted p).own t
      have hfollows : Follows (s.books p t).progress (i :: rest) :=
        hi ▸ (h.accounted p).follows t
      rcases hfollows.account hown hb hnext with ⟨hafter, hafterOwn⟩
      refine h.settle ((h.accounted p).advance hcontrol hcode hafter hafterOwn ?_)
        (account_sequence hb h.sequence_lt) (transitions_of_account control hown hb)
      rcases account_lastval hb with hsame | hexec
      · exact .inl hsame
      · exact .inr fun u hu => (h.accounted p).not_inserted hi (by rw [hexec]; rfl) hu
  | throw p t inDoubt =>
      rcases Option.bind_eq_some_iff.mp hstep with ⟨op, hop, hstep⟩
      rcases Option.map_eq_some_iff.mp hstep with ⟨control, hcontrol, rfl⟩
      rcases step_throw hcontrol with ⟨i, rest, hi, hcan, rfl⟩
      have hfollows : Follows (s.books p t).progress (i :: rest) :=
        hi ▸ (h.accounted p).follows t
      rcases hfollows.undo hcan (inDoubt && op == .commit) with ⟨hafter, hafterOwn⟩
      rcases undo_frame (s.books p t) (inDoubt && op == .commit) with ⟨hlastval, hsequence⟩
      exact h.settle ((h.accounted p).advance hcontrol rfl hafter hafterOwn (.inl hlastval))
        (hsequence ▸ h.sequence_lt) (transitions_of_undo s p t _ _)

end Sound

/-- **Cookies are the site's own.** However the threads of all processes take turns, and
whatever statements fail, the ids of the rows are distinct, every id that was returned
is the one of the row that its call stored, the cookie made of it reads back as that
row, and no two cookies are equal. -/
theorem cookies_distinct {s : Registry Pid Tid} (h : Machine.Reaches step .start s) :
    (s.rows.map Prod.fst).Nodup ∧
      (∀ call id, (call, some id) ∈ s.returned → (id, call) ∈ s.rows ∧
        (makeCookieString (.ofNat 64 id) call.randomstr call.webagenthash).bind
          extractCookieString = some ⟨.ofNat 64 id, call.randomstr, call.webagenthash⟩) ∧
      s.cookies.Nodup := by
  have hs : Sound s := Machine.Reaches.invariant (fun _ _ _ hs h => hs.step h) .start h
  have hreads : ∀ row ∈ s.ledger.given,
      (makeCookieString (.ofNat 64 row.1) row.2.randomstr row.2.webagenthash).bind
        extractCookieString = some ⟨.ofNat 64 row.1, row.2.randomstr, row.2.webagenthash⟩ := by
    intro row hrow
    have hrange := hs.fresh.rows row (hs.fresh.given row hrow)
    have hlt : row.1 < 2 ^ 63 :=
      lt_of_le_of_lt hrange.2 (lt_trans hs.sequence_lt (by decide))
    rw [makeCookieString_eq _ (toInt_ofNat_of_lt hrange.1 hlt) row.2.random, Option.bind_some]
    exact extractCookieString_cookieText row.2.random _ _
  refine ⟨hs.fresh.rows_nodup, fun call id hmem => ?_, ?_⟩
  · have hgiven : (id, call) ∈ s.ledger.given :=
      List.mem_filterMap.mpr ⟨_, hmem, rfl⟩
    exact ⟨hs.fresh.given _ hgiven, hreads _ hgiven⟩
  · rw [cookies_eq]
    refine (List.Nodup.of_map _ hs.fresh.given_nodup).map_on fun row hrow row' hrow' heq => ?_
    -- the id is read back from the cookie
    have hback := hreads row hrow
    rw [heq, hreads row' hrow', Option.some.injEq, Cookie.mk.injEq] at hback
    have hid : row.1 = row'.1 := by
      have hval := congrArg BitVec.toNat hback.1
      have hlt := (hs.fresh.rows row (hs.fresh.given row hrow)).2
      have hlt' := (hs.fresh.rows row' (hs.fresh.given row' hrow')).2
      have hmax : s.ledger.sequence < 2 ^ 31 := hs.sequence_lt
      rw [BitVec.toNat_ofNat, BitVec.toNat_ofNat] at hval
      omega
    exact List.inj_on_of_nodup_map hs.fresh.given_nodup hrow hrow' hid

/-- A call without a user agent. -/
def someCall : CookieCall :=
  ⟨List.replicate 24 'a', 1600000000, 0, by decide, List.all_eq_true.mp (by decide)⟩

/-- Two processes that insert their rows in one order and commit in the other, after a
thread of the first failed to begin. -/
def crossing : List (Action Bool Nat) :=
  [.call true 1 .userModelCreate, .run true 1 none, .run true 1 none, .run true 1 none,
    .run true 1 none, .register true 0 someCall, .run true 0 none, .run true 0 none,
    .run true 0 none, .run true 1 (some 7), .run true 1 none, .run true 1 none,
    .register true 0 someCall, .register false 0 someCall, .run true 0 none, .run false 0 none,
    .run true 0 none, .run false 0 none, .run true 0 none, .run false 0 none, .run false 0 none,
    .run false 0 none, .run true 0 none, .run true 0 none, .run true 0 none, .run true 0 none,
    .run false 0 none, .run false 0 none]

def crossed : Registry Bool Nat := (Machine.exec step .start crossing).getD .start

theorem cookies_distinct_crossing :
    crossed.returned.map Prod.snd = [none, some 1, some 2] ∧
      (crossed.rows.map Prod.fst).Nodup ∧
      (∀ call id, (call, some id) ∈ crossed.returned → (id, call) ∈ crossed.rows ∧
        (makeCookieString (.ofNat 64 id) call.randomstr call.webagenthash).bind
          extractCookieString = some ⟨.ofNat 64 id, call.randomstr, call.webagenthash⟩) ∧
      crossed.cookies.Nodup :=
  ⟨by decide, cookies_distinct ⟨crossing, rfl⟩⟩

end Registry

end HelpCovid.Database
