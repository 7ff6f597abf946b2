import HelpCovid.Http.ThreadPool
import HelpCovid.Startup.Threads

/-!
# Every job runs once, in order, and the pool stops

The invariant of the thread pool over all interleavings, and what follows from
it: the jobs start in the order in which they were enqueued, each at most once;
a sleeping worker means that as many workers as there are jobs in the list are
about to look at it; and a pool that was told to stop does stop, with every job
run.
-/

namespace HelpCovid.Http.ThreadPool

open Machine

variable {α : Type*}

/-! ## The invariant -/

/-- What holds of the pool between any two steps. -/
structure Sound (s : Pool α) : Prop where
  /-- the jobs leave the list in the order in which they came -/
  order : s.enqueued = s.started ++ s.jobs
  /-- a job that was started is being run or has returned -/
  accounted : s.started.Perm (s.running ++ s.finished)
  /-- who sleeps is not needed -/
  covered : s.waiting = 0 ∨ s.jobs.length ≤ s.ready
  flag : s.shutdown = true ↔ s.phase ≠ .accepting
  /-- workers leave when the list is empty for good -/
  left : s.exited = 0 ∨ s.shutdown = true ∧ s.jobs = []
  awake : ∀ k, s.phase = .joining k → s.waiting = 0
  joined : ∀ k, s.phase = .joining k → ∀ i < k, s.threads[i]? = some .exited

theorem sound_threadPool (n : Nat) : Sound (threadPool n : Pool α) where
  order := rfl
  accounted := by
    simp [Pool.running, threadPool, Worker.job?]
  covered := Or.inl (by simp [Pool.waiting, threadPool, Worker.isWaiting])
  flag := by simp [threadPool]
  left := Or.inl (by simp [Pool.exited, threadPool, Worker.hasExited])
  awake := fun k hk => by simp [threadPool] at hk
  joined := fun k hk => by simp [threadPool] at hk

/-! ## One step -/

theorem order_step {s s' : Pool α} {a : Action α} (hs : Sound s) (h : Transition s a s') :
    s'.enqueued = s'.started ++ s'.jobs := by
  have horder := hs.order
  cases h with
  | enqueueBusy | enqueue => simp [horder]
  | take hjobs => simp [horder, hjobs]
  | _ => exact horder

theorem accounted_step {s s' : Pool α} {a : Action α} (hs : Sound s) (h : Transition s a s') :
    s'.started.Perm (s'.running ++ s'.finished) := by
  have haccounted := hs.accounted
  cases h with
  | enqueue _ hmove | wake hmove | exit _ _ hmove | wait _ _ hmove =>
      have hperm : (Pool.running { s with threads := _ }).Perm s.running := hmove.jobs_perm
      exact haccounted.trans (hperm.symm.append_right _)
  | notifyAll =>
      have hmap : (s.threads.map fun w => if w.isWaiting then .ready else w).filterMap
          Worker.job? = s.running := by
        rw [List.filterMap_map]
        refine List.filterMap_congr fun w _ => ?_
        cases w <;> rfl
      simpa [Pool.running, hmap] using haccounted
  | @take i fn rest threads hjobs hmove =>
      have hperm : (threads.filterMap Worker.job?).Perm (fn :: s.running) := hmove.jobs_perm
      refine (haccounted.append_right [fn]).trans ?_
      refine .trans ?_ (hperm.symm.append_right _)
      exact List.perm_append_singleton _ _
  | @done i fn threads hmove =>
      have hperm : (fn :: threads.filterMap Worker.job?).Perm s.running := hmove.jobs_perm
      refine haccounted.trans ((hperm.symm.append_right _).trans ?_)
      rw [List.cons_append, ← List.append_assoc]
      exact (List.perm_append_singleton _ _).symm
  | _ => exact haccounted

/-- A move of a worker that does not fall asleep keeps the list covered when it
puts as many workers on their way to the list as it puts jobs there. -/
theorem Moves.covered {w w' : Worker α} {ts ts' : List (Worker α)} {n n' : Nat}
    (h : Moves w w' ts ts')
    (hcovered : ts.countP Worker.isWaiting = 0 ∨ n ≤ ts.countP Worker.isReady)
    (hawake : w'.isWaiting = false)
    (hn : n' + (if w.isReady then 1 else 0) ≤ n + (if w'.isReady then 1 else 0)) :
    ts'.countP Worker.isWaiting = 0 ∨ n' ≤ ts'.countP Worker.isReady := by
  have hwaiting := h.countP_eq Worker.isWaiting
  have hready := h.countP_eq Worker.isReady
  rw [hawake, if_neg Bool.false_ne_true] at hwaiting
  omega

/-- Every wake-up is for a job, and a worker that sleeps has seen the list empty. -/
theorem covered_step {s s' : Pool α} {a : Action α} (hs : Sound s) (h : Transition s a s') :
    s'.waiting = 0 ∨ s'.jobs.length ≤ s'.ready := by
  have hcovered := hs.covered
  cases h with
  | enqueueBusy _ hbusy =>
      left
      refine List.countP_eq_zero.mpr fun w hw => ?_
      simpa using List.all_eq_true.mp hbusy w hw
  | enqueue _ hmove =>
      refine hmove.covered hcovered rfl ?_
      simp [Worker.isReady]
  | notifyAll =>
      left
      rw [Pool.waiting, List.countP_map, List.countP_eq_zero]
      intro w _
      cases w <;> simp [Worker.isWaiting]
  | wake hmove =>
      refine hmove.covered hcovered rfl ?_
      simp [Worker.isReady]
  | take hjobs hmove =>
      refine hmove.covered hcovered rfl ?_
      simp [Worker.isReady, hjobs]
  | exit hjobs | wait hjobs =>
      right
      simp [hjobs]
  | done hmove =>
      refine hmove.covered hcovered rfl ?_
      simp [Worker.isReady]
  | _ => exact hcovered

theorem flag_step {s s' : Pool α} {a : Action α} (hs : Sound s) (h : Transition s a s') :
    s'.shutdown = true ↔ s'.phase ≠ .accepting := by
  have hflag := hs.flag
  cases h with
  | setShutdown => simp
  | notifyAll hphase | join hphase => simp [hflag, hphase]
  | _ => exact hflag

/-- Who moves without leaving or from where it cannot have left changes nothing
about the workers that left. -/
theorem Moves.exited_eq {w w' : Worker α} {ts ts' : List (Worker α)} (h : Moves w w' ts ts')
    (hw : w.hasExited = false) (hw' : w'.hasExited = false) :
    ts'.countP Worker.hasExited = ts.countP Worker.hasExited := by
  have heq := h.countP_eq Worker.hasExited
  simpa [hw, hw'] using heq

theorem left_step {s s' : Pool α} {a : Action α} (hs : Sound s) (h : Transition s a s') :
    s'.exited = 0 ∨ s'.shutdown = true ∧ s'.jobs = [] := by
  have hleft := hs.left
  have hflag := hs.flag
  cases h with
  | enqueueBusy hphase | setShutdown hphase =>
      -- while the pool accepts jobs nobody has left
      left
      rcases hleft with hzero | ⟨hshutdown, -⟩
      · exact hzero
      · exact absurd hphase (hflag.mp hshutdown)
  | enqueue hphase hmove =>
      left
      rw [Pool.exited, hmove.exited_eq rfl rfl]
      rcases hleft with hzero | ⟨hshutdown, -⟩
      · exact hzero
      · exact absurd hphase (hflag.mp hshutdown)
  | notifyAll =>
      have hmap : (s.threads.map fun w => if w.isWaiting then .ready else w).countP
          Worker.hasExited = s.exited := by
        rw [List.countP_map]
        refine List.countP_congr fun w _ => ?_
        cases w <;> simp [Worker.isWaiting, Worker.hasExited]
      simpa [Pool.exited, hmap] using hleft
  | join => exact hleft
  | wake hmove | done hmove | wait _ _ hmove =>
      simpa [Pool.exited, hmove.exited_eq rfl rfl] using hleft
  | take hjobs hmove =>
      left
      rw [Pool.exited, hmove.exited_eq rfl rfl]
      rcases hleft with hzero | ⟨-, hnil⟩
      · exact hzero
      · rw [hjobs] at hnil
        cases hnil
  | exit hjobs hshutdown => exact Or.inr ⟨hshutdown, hjobs⟩

/-- After `notify_all` nobody sleeps again: the flag is set. -/
theorem awake_step {s s' : Pool α} {a : Action α} (hs : Sound s) (h : Transition s a s') :
    ∀ k, s'.phase = .joining k → s'.waiting = 0 := by
  have hawake := hs.awake
  have hmoves : ∀ {w w' : Worker α} {threads : List (Worker α)}, Moves w w' s.threads threads →
      w'.isWaiting = false → s.waiting = 0 → threads.countP Worker.isWaiting = 0 := by
    intro w w' threads hmove hw' hzero
    have heq := hmove.countP_eq Worker.isWaiting
    rw [hw', if_neg Bool.false_ne_true] at heq
    rw [Pool.waiting] at hzero
    omega
  intro k hk
  cases h with
  | enqueueBusy hphase | enqueue hphase | setShutdown hphase => simp_all
  | notifyAll =>
      rw [Pool.waiting, List.countP_map, List.countP_eq_zero]
      intro w _
      cases w <;> simp [Worker.isWaiting]
  | join hphase => exact hawake _ hphase
  | wake hmove => exact hmoves hmove rfl (hawake k hk)
  | take _ hmove => exact hmoves hmove rfl (hawake k hk)
  | exit _ _ hmove => exact hmoves hmove rfl (hawake k hk)
  | wait _ hshutdown =>
      have hset := hs.flag.mpr (by simp_all)
      rw [hshutdown] at hset
      cases hset
  | done hmove => exact hmoves hmove rfl (hawake k hk)

theorem joined_step {s s' : Pool α} {a : Action α} (hs : Sound s) (h : Transition s a s') :
    ∀ k, s'.phase = .joining k → ∀ i < k, s'.threads[i]? = some .exited := by
  have hjoined := hs.joined
  intro k hk i hi
  cases h with
  | enqueueBusy hphase | enqueue hphase | setShutdown hphase => simp_all
  | notifyAll =>
      cases hk
      exact absurd hi (Nat.not_lt_zero i)
  | join hphase hexited =>
      cases hk
      rcases Nat.lt_succ_iff_lt_or_eq.mp hi with hlt | rfl
      · exact hjoined _ hphase i hlt
      · exact hexited
  | wake hmove => exact hmove.getElem?_eq (by simp) (hjoined k hk i hi)
  | take _ hmove => exact hmove.getElem?_eq (by simp) (hjoined k hk i hi)
  | exit _ _ hmove => exact hmove.getElem?_eq (by simp) (hjoined k hk i hi)
  | wait _ _ hmove => exact hmove.getElem?_eq (by simp) (hjoined k hk i hi)
  | done hmove => exact hmove.getElem?_eq (by simp) (hjoined k hk i hi)

theorem sound_step {s s' : Pool α} {a : Action α} (hs : Sound s) (h : step s a = some s') :
    Sound s' :=
  have htransition := transition_of_step h
  { order := order_step hs htransition
    accounted := accounted_step hs htransition
    covered := covered_step hs htransition
    flag := flag_step hs htransition
    left := left_step hs htransition
    awake := awake_step hs htransition
    joined := joined_step hs htransition }

/-- The invariant holds of every pool that a run reaches. -/
theorem sound_of_reaches {n : Nat} {s : Pool α} (h : Reaches step (threadPool n) s) : Sound s :=
  h.invariant (fun _ _ _ hs hstep => sound_step hs hstep) (sound_threadPool n)

/-! ## The order of the jobs -/

/-- The job that an action enqueues. -/
def Action.job? : Action α → Option α
  | .enqueue fn _ => some fn
  | _ => none

theorem enqueued_exec {s t : Pool α} {as : List (Action α)} (h : exec step s as = some t) :
    t.enqueued = s.enqueued ++ as.filterMap Action.job? := by
  induction as generalizing s with
  | nil =>
      obtain rfl : s = t := by simpa using h
      simp
  | cons a as ih =>
      rcases exec_cons.mp h with ⟨s', hs', hrest⟩
      have hfirst : s'.enqueued = s.enqueued ++ (Action.job? a).toList := by
        cases transition_of_step hs' <;> simp [Action.job?]
      rw [ih hrest, hfirst, List.append_assoc]
      cases hjob : a.job? <;> simp [hjob]

/-- The jobs start in the order in which they were enqueued; what has not started
is in the list, and what has started is being run by one worker, or has returned. -/
theorem jobs_in_order {n : Nat} {as : List (Action α)} {s : Pool α}
    (h : exec step (threadPool n) as = some s) :
    as.filterMap Action.job? = s.started ++ s.jobs ∧
      s.started.Perm (s.running ++ s.finished) := by
  have hs : Sound s := sound_of_reaches ⟨as, h⟩
  have henqueued := enqueued_exec h
  constructor
  · rw [← hs.order, henqueued]
    rfl
  · exact hs.accounted

theorem jobs_in_order_two_workers :
    let s : Pool Char :=
      { jobs := ['b'], shutdown := false, threads := [.ready, .running 'a'], phase := .accepting,
        enqueued := ['a', 'b'], started := ['a'], finished := [] }
    ['a', 'b'] = s.started ++ s.jobs ∧ s.started.Perm (s.running ++ s.finished) :=
  @jobs_in_order Char 2 [.lock 0, .enqueue 'a' (some 0), .enqueue 'b' none, .lock 1] _ rfl

/-! ## No wake-up is lost -/

theorem worker_cases {w : Worker α} (hready : w.isReady = false) (hwaiting : w.isWaiting = false)
    (hexited : w.hasExited = false) : ∃ fn, w = .running fn := by
  cases w with
  | running fn => exact ⟨fn, rfl⟩
  | ready => cases hready
  | waiting => cases hwaiting
  | exited => cases hexited

/-- While a worker sleeps there are at most as many jobs in the list as workers
about to look at it; so a job is left in the list only while all workers are
running other jobs. -/
theorem no_lost_wakeup {n : Nat} {s : Pool α} (h : Reaches step (threadPool n) s) :
    (.waiting ∈ s.threads → s.jobs.length ≤ s.ready) ∧
      (s.jobs ≠ [] → .ready ∉ s.threads → ∀ w ∈ s.threads, ∃ fn, w = .running fn) := by
  have hs := sound_of_reaches h
  constructor
  · intro hwaiting
    have hpos : 0 < s.waiting := List.countP_pos_iff.mpr ⟨_, hwaiting, rfl⟩
    exact hs.covered.resolve_left (Nat.ne_of_gt hpos)
  · intro hjobs hready w hw
    have hidle : ∀ v ∈ s.threads, ¬ v.isReady = true := by
      intro v hv hvready
      cases v with
      | ready => exact hready hv
      | _ => cases hvready
    have hnone : s.ready = 0 := List.countP_eq_zero.mpr hidle
    have hlength := List.length_pos_of_ne_nil hjobs
    have hwaiting : s.waiting = 0 := hs.covered.resolve_right (by omega)
    have hexited : s.exited = 0 := hs.left.resolve_right fun hleft => hjobs hleft.2
    exact worker_cases (by simpa using hidle w hw)
      (by simpa using List.countP_eq_zero.mp hwaiting w hw)
      (by simpa using List.countP_eq_zero.mp hexited w hw)

/-- One of the two workers sleeps, the other has been woken for the job. -/
theorem no_lost_wakeup_two_workers :
    let s : Pool Char :=
      { jobs := ['a'], shutdown := false, threads := [.ready, .waiting], phase := .accepting,
        enqueued := ['a'], started := [], finished := [] }
    (.waiting ∈ s.threads → s.jobs.length ≤ s.ready) ∧
      (s.jobs ≠ [] → .ready ∉ s.threads → ∀ w ∈ s.threads, ∃ fn, w = .running fn) :=
  no_lost_wakeup (n := 2) ⟨[.lock 0, .lock 1, .enqueue 'a' (some 0)], rfl⟩

/-! ## The end -/

/-- The index of the thread `shutdown` is about to join. -/
def Pool.next (s : Pool α) : Nat :=
  match s.phase with
  | .joining k => k
  | _ => 0

/-- How many steps a worker has to make before it leaves, if no job comes. -/
def Worker.load : Worker α → Nat
  | .running _ => 2
  | .ready => 1
  | .waiting => 0
  | .exited => 0

/-- What is left to do: a job in the list is to be taken and run, a worker is to
leave, a thread is to be joined. -/
def Pool.work (s : Pool α) : Nat :=
  2 * s.jobs.length + (s.threads.map Worker.load).sum + (s.threads.length - s.next)

/-- `shutdown` is joining the threads. -/
def Joining (s : Pool α) : Prop := Sound s ∧ ∃ k, s.phase = .joining k

theorem Moves.load_eq {w w' : Worker α} {ts ts' : List (Worker α)} (h : Moves w w' ts ts') :
    (ts'.map Worker.load).sum + w.load = (ts.map Worker.load).sum + w'.load := by
  cases h with
  | intro before after =>
      simp only [List.map_append, List.map_cons, List.sum_append, List.sum_cons]
      omega

/-- While the threads are joined every step does some of the work. -/
theorem joining_step {s s' : Pool α} {a : Action α} (hs : Joining s) (h : step s a = some s') :
    Joining s' ∧ s'.work < s.work := by
  rcases hs with ⟨hsound, k, hk⟩
  have hsound' := sound_step hsound h
  have hawake := hsound.awake k hk
  unfold Joining Pool.work Pool.next
  cases transition_of_step h with
  | enqueueBusy hphase | enqueue hphase | setShutdown hphase | notifyAll hphase =>
      rw [hk] at hphase
      cases hphase
  | @join j hphase hexited =>
      have hlt : j < s.threads.length := (List.getElem?_eq_some_iff.mp hexited).1
      refine ⟨⟨hsound', _, rfl⟩, ?_⟩
      simp only [hphase]
      omega
  | wake hmove =>
      -- nobody sleeps any more
      have hcount := hmove.countP_eq Worker.isWaiting
      rw [← Pool.waiting, hawake] at hcount
      simp [Worker.isWaiting] at hcount
  | take hjobs hmove =>
      refine ⟨⟨hsound', k, hk⟩, ?_⟩
      have hload := hmove.load_eq
      have hlength := hmove.length_eq
      simp only [Worker.load] at hload
      simp only [hk, hjobs, List.length_cons]
      omega
  | exit hjobs _ hmove =>
      refine ⟨⟨hsound', k, hk⟩, ?_⟩
      have hload := hmove.load_eq
      have hlength := hmove.length_eq
      simp only [Worker.load] at hload
      simp only [hk]
      omega
  | wait _ hshutdown =>
      have hset := hsound.flag.mpr (by simp [hk])
      rw [hshutdown] at hset
      cases hset
  | done hmove =>
      refine ⟨⟨hsound', k, hk⟩, ?_⟩
      have hload := hmove.load_eq
      have hlength := hmove.length_eq
      simp only [Worker.load] at hload
      simp only [hk]
      omega

theorem threads_length_step {s s' : Pool α} {a : Action α} (h : step s a = some s') :
    s'.threads.length = s.threads.length := by
  cases transition_of_step h with
  | enqueue _ hmove | wake hmove | take _ hmove | exit _ _ hmove | wait _ _ hmove | done hmove =>
      exact hmove.length_eq
  | notifyAll => simp
  | _ => rfl

/-- A pool that is joining its threads can go on until it has joined them all. -/
theorem joining_progress {s : Pool α} (hs : Joining s) (hstuck : ∀ a, step s a = none) :
    s.Joined := by
  rcases hs with ⟨hsound, k, hk⟩
  have hjoined := hsound.joined k hk
  have hle : k ≤ s.threads.length := by
    by_contra hlt
    have hlast := hjoined s.threads.length (by omega)
    simp at hlast
  rcases Nat.lt_or_eq_of_le hle with hlt | heq
  · have hget : s.threads[k]? = some s.threads[k] := List.getElem?_eq_getElem hlt
    cases hw : s.threads[k] with
    | ready =>
        have hstep := hstuck (.lock k)
        simp [step, hget, hw] at hstep
    | waiting =>
        have hnone := List.countP_eq_zero.mp (hsound.awake k hk) _ (List.getElem_mem hlt)
        simp [hw, Worker.isWaiting] at hnone
    | running fn =>
        have hstep := hstuck (.done k)
        simp [step, hget, hw] at hstep
    | exited =>
        have hstep := hstuck .join
        simp [step, hk, hget, hw, Worker.hasExited] at hstep
  · rw [Pool.Joined, hk, heq]

/-- A pool that has joined its threads has run every job. -/
theorem finished_of_joined {s : Pool α} (hs : Sound s) (hthreads : s.threads ≠ [])
    (hjoined : s.Joined) : s.jobs = [] ∧ s.finished.Perm s.enqueued := by
  have hall : ∀ w ∈ s.threads, w = .exited := by
    intro w hw
    rcases List.getElem_of_mem hw with ⟨i, hi, rfl⟩
    have hexited := hs.joined _ hjoined i hi
    rw [List.getElem?_eq_getElem hi] at hexited
    exact Option.some.inj hexited
  have hpos : 0 < s.exited := by
    rcases List.exists_mem_of_ne_nil _ hthreads with ⟨w, hw⟩
    exact List.countP_pos_iff.mpr ⟨w, hw, by simp [hall w hw, Worker.hasExited]⟩
  have hjobs : s.jobs = [] := (hs.left.resolve_left (Nat.ne_of_gt hpos)).2
  have hrunning : s.running = [] := by
    refine List.filterMap_eq_nil_iff.mpr fun w hw => ?_
    rw [hall w hw]
    rfl
  refine ⟨hjobs, ?_⟩
  have haccounted := hs.accounted
  rw [hrunning, List.nil_append] at haccounted
  rw [hs.order, hjobs, List.append_nil]
  exact haccounted.symm

theorem reaches_threads_length {s t : Pool α} (h : Reaches step s t) :
    t.threads.length = s.threads.length :=
  @Reaches.invariant _ _ step (fun u => u.threads.length = s.threads.length)
    (fun _ _ _ hu hstep => (threads_length_step hstep).trans hu) s t rfl h

theorem two_le_httpMaxThreads {setlocale : Text → Option Text} {hw : BitVec 32}
    {src : Startup.Sources} {st : Startup.Start}
    (h : Startup.main setlocale hw.toNat src.getenv src.keyFile src.args = .ok st) :
    2 ≤ st.httpMaxThreads := by
  rw [Startup.httpMaxThreads_of_main h]
  split
  · exact Startup.two_le_clampThreads hw.isLt _
  · unfold Startup.earlyInitialize
    split <;> exact Startup.two_le_clampEarly _ _

/-- Once `shutdown` has notified the workers of the web server it returns: what is
left is a bounded number of steps, in any order, and where no step is left all
threads are joined and the jobs that have returned are those that were enqueued. -/
theorem shutdown_returns {setlocale : Text → Option Text} {hw : BitVec 32}
    {src : Startup.Sources} {st : Startup.Start}
    (hmain : Startup.main setlocale hw.toNat src.getenv src.keyFile src.args = .ok st)
    {k : Nat} {s : Pool α} (h : Reaches step (threadPool st.httpMaxThreads) s)
    (hphase : s.phase = .joining k) :
    (∀ as t, exec step s as = some t → as.length ≤ s.work) ∧
      ∀ t, Reaches step s t → (∀ a, step t a = none) →
        t.Joined ∧ t.jobs = [] ∧ t.finished.Perm t.enqueued := by
  have hs : Joining s := ⟨sound_of_reaches h, k, hphase⟩
  constructor
  · intro as t hrun
    have hle := exec_measure (fun _ _ _ hu hstep => joining_step hu hstep) hs hrun
    omega
  · intro t hreach hstuck
    have ht : Joining t := hreach.invariant (fun _ _ _ hu hstep => (joining_step hu hstep).1) hs
    have hjoined := joining_progress ht hstuck
    have hlength : t.threads.length = st.httpMaxThreads := by
      rw [reaches_threads_length hreach, reaches_threads_length h]
      exact List.length_replicate
    have htwo := two_le_httpMaxThreads hmain
    refine ⟨hjoined, finished_of_joined ht.1 ?_ hjoined⟩
    exact List.ne_nil_of_length_pos (by omega)

/-- Two workers that still have to take the job when they are told to stop. -/
theorem shutdown_returns_two_workers :
    let s : Pool Char :=
      { jobs := ['a'], shutdown := true, threads := [.ready, .ready], phase := .joining 0,
        enqueued := ['a'], started := [], finished := [] }
    (∀ as t, exec step s as = some t → as.length ≤ s.work) ∧
      ∀ t, Reaches step s t → (∀ a, step t a = none) →
        t.Joined ∧ t.jobs = [] ∧ t.finished.Perm t.enqueued :=
  @shutdown_returns Char some 8#32
    (Startup.withOptions [(.threads, "2".toList)]) ⟨2, none, none, [], none, []⟩ (by rfl) 0 _
    ⟨[.lock 0, .enqueue 'a' (some 0), .setShutdown, .notifyAll], rfl⟩ rfl

end HelpCovid.Http.ThreadPool
