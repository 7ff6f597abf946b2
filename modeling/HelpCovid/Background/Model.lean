import HelpCovid.Lib.Binary64
import HelpCovid.Lib.Machine
import HelpCovid.Lib.StdMap

/-!
# The background thread and its queue of postponed tasks

`hcv_background.cc` keeps postponed tasks in `hcv_todo_map`, keyed by due time.
Any thread may post a task, which also writes the event descriptor. The
background thread polls the event, the signal and the timer descriptors and
then handles what the poll reported, in this order; a step of the model is a
post by any thread, a tick of the monotonic clock, a poll, or one part of the
handling. A task may post tasks while it runs: its posts are the ones between
`doEvent` and the `rearm` that follows it.

What the program computes with a `double` is computed with a `Binary64`, rounding
included; a clock that fails and a delay that is no number are left out. The clock
itself is exact. `posts` and `ran` are not in the program; they record the accepted
posts and the tasks that were run with the clock at that moment. A task is named by
its place in `posts`.
-/

namespace HelpCovid.Background

/-- `HCV_POSTPONE_MINIMAL_DELAY` -/
def minimalDelay : Binary64 := .ofRat (1 / 100)

/-- `HCV_POSTPONE_MAXIMAL_DELAY` -/
def maximalDelay : Binary64 := 1000

/-- `HCV_MAX_TODO` -/
def maxTodo : Nat := 1024

/-- The largest value an eventfd counter holds. -/
def eventMax : Nat := 2 ^ 64 - 2

/-- A call of `hcv_do_postpone_background`: the nanosecond of the clock that it reads,
its delay and whether it was given a function. -/
structure Posting where
  reading : Nat
  delay : Binary64
  todofun : Bool
deriving Repr, DecidableEq

/-- `hcv_monotonic_real_time`, for a nanosecond of the clock. -/
def monotonicRealTime (ns : Nat) : Binary64 :=
  1 * .ofRat (ns / 10 ^ 9 : Nat) + .ofRat (1 / 10 ^ 9) * .ofRat (ns % 10 ^ 9 : Nat)

/-- The delay as the code bounds it. -/
def clampDelay (delay : Binary64) : Binary64 :=
  if delay.val < minimalDelay.val then minimalDelay
  else if delay.val > maximalDelay.val then maximalDelay
  else delay

/-- `todotime` -/
def Posting.due (p : Posting) : ℚ := (monotonicRealTime p.reading + clampDelay p.delay).val

/-- `hcv_todo_st`; the data and the function are those of the task. -/
structure Todo where
  time : ℚ
  task : Nat
deriving Repr, DecidableEq

/-- The signals of `hcv_bg_signal_fd`. -/
inductive Signal where
  | term
  | hup
  | xcpu
  | pipe
deriving Repr, DecidableEq

/-- What the background thread still has to do before it polls again. -/
inductive Job where
  | readEvent
  | readSignal (sig : Signal)
  | readTimer
  | doEvent
  | rearm
deriving Repr, DecidableEq

structure State where
  /-- `hcv_todo_map` -/
  todoMap : StdMap ℚ Todo
  /-- the counter of `hcv_bg_event_fd` -/
  eventCount : Nat
  /-- the nanosecond `hcv_bg_timer_fd` is armed for -/
  timer : Option Nat
  clock : ℚ
  jobs : List Job
  /-- `hcv_should_stop_bg_thread` -/
  shouldStop : Bool
  /-- the process has aborted in `HCV_FATALOUT` -/
  aborted : Bool
  posts : List Posting
  ran : List (Nat × ℚ)

/-- The start, at a reading of the clock. -/
def State.start (clock : ℚ) : State := ⟨∅, 0, none, clock, [], false, false, [], []⟩

/-- The timer has expired and was not read since. -/
def State.expired (s : State) : Bool :=
  match s.timer with
  | none => false
  | some ns => decide ((ns : ℚ) ≤ s.clock * 10 ^ 9)

/-- The insertion of `hcv_do_postpone_background`. -/
def State.insert (s : State) (p : Posting) : State :=
  { s with
    todoMap := s.todoMap.insertIfNew p.due ⟨p.due, s.posts.length⟩
    posts := s.posts ++ [p] }

/-- `hcv_do_postpone_background` -/
def doPostponeBackground (s : State) (p : Posting) : State :=
  if !p.todofun then { s with aborted := true }
  else if s.todoMap.size > maxTodo then { s with aborted := true }
  else if s.eventCount < eventMax then { s.insert p with eventCount := s.eventCount + 1 }
  -- the write to the event descriptor fails
  else { s.insert p with aborted := true }

/-- `hcv_bg_do_event` up to the call of the task. -/
def bgDoEvent (s : State) (rest : List Job) : State :=
  match s.todoMap.begin? with
  | none => { s with jobs := rest }
  | some (k, todo) =>
      -- `begin()` is taken without a look at its time
      { s with
        todoMap := s.todoMap.erase k
        ran := s.ran ++ [(todo.task, s.clock)]
        jobs := .rearm :: rest }

/-- `ts.it_value.tv_nsec`: the product is rounded, and then truncated. -/
def tvNsec (time : ℚ) : Nat := ⌊Binary64.nearest (Int.fract time * 10 ^ 9)⌋.toNat

/-- The `itimerspec` of a time, in nanoseconds. -/
def timerSpec (time : ℚ) : Nat := ⌊time⌋.toNat * 10 ^ 9 + tvNsec time

/-- A time that `timerfd_settime` refuses: a negative one, or more nanoseconds than
a second has. -/
def RefusedTime (time : ℚ) : Prop := time < 0 ∨ 10 ^ 9 ≤ tvNsec time

instance (time : ℚ) : Decidable (RefusedTime time) := inferInstanceAs (Decidable (_ ∨ _))

/-- `hcv_bg_do_event` after the call of the task: the timer is set for the new
head of the queue. A time of zero disarms it. -/
def rearm (s : State) (rest : List Job) : State :=
  match s.todoMap.begin? with
  | none => { s with jobs := rest }
  | some (_, todonext) =>
      if RefusedTime todonext.time then { s with aborted := true }
      else
        let ns := timerSpec todonext.time
        { s with timer := if ns = 0 then none else some ns, jobs := rest }

/-- The part of the loop body that handles one descriptor, or one half of
`hcv_bg_do_event`. A timer that did not expire fails the read. -/
def runJob (s : State) (job : Job) (rest : List Job) : State :=
  match job with
  | .readEvent =>
      if s.eventCount = 0 then { s with jobs := rest }
      else { s with eventCount := 0, jobs := .doEvent :: rest }
  | .readSignal .term => { s with shouldStop := true, jobs := rest }
  | .readSignal .hup => { s with aborted := true }
  | .readSignal .xcpu => { s with aborted := true }
  | .readSignal .pipe => { s with jobs := .doEvent :: rest }
  | .readTimer =>
      -- the count is only logged: no `hcv_bg_do_event` follows
      if s.expired then { s with timer := none, jobs := rest } else { s with aborted := true }
  | .doEvent => bgDoEvent s rest
  | .rearm => rearm s rest

inductive Action where
  /-- time passes -/
  | tick (d : ℚ)
  /-- some thread posts a task -/
  | post (p : Posting)
  /-- the poll returns; the arguments say which descriptors it reports -/
  | poll (event : Bool) (signal : Option Signal) (timer : Bool)
  /-- the background thread goes on -/
  | work
deriving Repr

/-- The handling of what a poll reports. -/
def pollJobs (event : Bool) (signal : Option Signal) (timer : Bool) : List Job :=
  (if event then [.readEvent] else []) ++ signal.toList.map .readSignal ++
    (if timer then [.readTimer] else [])

/-- One step. A post reads the clock before it takes the lock, so its reading may
be older than the clock. A poll reports only descriptors that are readable. -/
def step (s : State) (a : Action) : Option State :=
  if s.aborted then none
  else match a with
    | .tick d => if 0 ≤ d then some { s with clock := s.clock + d } else none
    | .post p =>
        if (p.reading : ℚ) ≤ s.clock * 10 ^ 9 then some (doPostponeBackground s p) else none
    | .poll event signal timer =>
        if s.jobs = [] ∧ s.shouldStop = false ∧ (event → s.eventCount ≠ 0) ∧
            (timer → s.expired) then
          some { s with jobs := pollJobs event signal timer }
        else none
    | .work =>
        match s.jobs with
        | [] => none
        | job :: rest => some (runJob s job rest)

/-! ## What a step can do -/

/-- The post is neither refused for a missing function nor for a full queue. -/
def Accepted (s : State) (p : Posting) : Prop := p.todofun = true ∧ s.todoMap.size ≤ maxTodo

/-- The steps, one constructor for each thing the program can do. -/
inductive Transition (s : State) : Action → State → Prop
  | tick {d : ℚ} (hd : 0 ≤ d) : Transition s (.tick d) { s with clock := s.clock + d }
  | refuse {p : Posting} (h : ¬ Accepted s p) : Transition s (.post p) { s with aborted := true }
  | post {p : Posting} (h : Accepted s p) (n : Nat) (b : Bool) (hn : n ≠ 0 ∨ b = true) :
      Transition s (.post p) { s.insert p with eventCount := n, aborted := b }
  | poll {event : Bool} {signal : Option Signal} {timer : Bool} (hjobs : s.jobs = [])
      (htimer : timer → s.expired) :
      Transition s (.poll event signal timer) { s with jobs := pollJobs event signal timer }
  | eventNone {rest : List Job} (hjobs : s.jobs = .readEvent :: rest) (h : s.eventCount = 0) :
      Transition s .work { s with jobs := rest }
  | event {rest : List Job} (hjobs : s.jobs = .readEvent :: rest) :
      Transition s .work { s with eventCount := 0, jobs := .doEvent :: rest }
  | stop {rest : List Job} (hjobs : s.jobs = .readSignal .term :: rest) :
      Transition s .work { s with shouldStop := true, jobs := rest }
  | pipe {rest : List Job} (hjobs : s.jobs = .readSignal .pipe :: rest) :
      Transition s .work { s with jobs := .doEvent :: rest }
  | timer {rest : List Job} (hjobs : s.jobs = .readTimer :: rest) (h : s.expired = true) :
      Transition s .work { s with timer := none, jobs := rest }
  | idle {rest : List Job} (hjobs : s.jobs = .doEvent :: rest ∨ s.jobs = .rearm :: rest)
      (h : s.todoMap.begin? = none) : Transition s .work { s with jobs := rest }
  | run {rest : List Job} {k : ℚ} {todo : Todo} (hjobs : s.jobs = .doEvent :: rest)
      (h : s.todoMap.begin? = some (k, todo)) :
      Transition s .work
        { s with
          todoMap := s.todoMap.erase k
          ran := s.ran ++ [(todo.task, s.clock)]
          jobs := .rearm :: rest }
  | rearm {rest : List Job} {k : ℚ} {todo : Todo} (hjobs : s.jobs = .rearm :: rest)
      (h : s.todoMap.begin? = some (k, todo)) (htime : ¬ RefusedTime todo.time) :
      Transition s .work
        { s with
          timer := if timerSpec todo.time = 0 then none else some (timerSpec todo.time)
          jobs := rest }
  | abort {job : Job} {rest : List Job} (hjobs : s.jobs = job :: rest) (hjob : job ≠ .doEvent)
      (htimer : job = .readTimer → s.expired = false)
      (hrearm : job = .rearm → ∃ e ∈ s.todoMap.begin?, RefusedTime e.2.time) :
      Transition s .work { s with aborted := true }

theorem transition_post (s : State) (p : Posting) :
    Transition s (.post p) (doPostponeBackground s p) := by
  unfold doPostponeBackground
  split
  · next hfun => exact .refuse fun h => by simp [h.1] at hfun
  · next hfun =>
      split
      · next hfull => exact .refuse fun h => absurd h.2 (by omega)
      · next hfull =>
          have haccepted : Accepted s p := by
            constructor
            · simpa using hfun
            · omega
          split
          · exact .post haccepted _ s.aborted (Or.inl (Nat.succ_ne_zero _))
          · exact .post haccepted s.eventCount true (Or.inr rfl)

theorem transition_work {s : State} {job : Job} {rest : List Job} (hjobs : s.jobs = job :: rest) :
    Transition s .work (runJob s job rest) := by
  cases job with
  | readEvent =>
      rw [runJob]
      split
      · next h => exact .eventNone hjobs h
      · exact .event hjobs
  | readSignal sig =>
      cases sig with
      | term => exact .stop hjobs
      | hup => exact .abort hjobs (by simp) (by simp) (by simp)
      | xcpu => exact .abort hjobs (by simp) (by simp) (by simp)
      | pipe => exact .pipe hjobs
  | readTimer =>
      rw [runJob]
      split
      · next h => exact .timer hjobs h
      · next h => exact .abort hjobs (by simp) (fun _ => by simpa using h) (by simp)
  | doEvent =>
      rw [runJob, bgDoEvent]
      split
      · next h => exact .idle (Or.inl hjobs) h
      · next h => exact .run hjobs h
  | rearm =>
      rw [runJob, Background.rearm]
      split
      · next h => exact .idle (Or.inr hjobs) h
      · next h =>
          split
          · next htime => exact .abort hjobs (by simp) (by simp) fun _ => ⟨_, h, htime⟩
          · next htime => exact .rearm hjobs h htime

/-- Every step is one of the transitions. -/
theorem transition_of_step {s s' : State} {a : Action} (h : step s a = some s') :
    s.aborted = false ∧ Transition s a s' := by
  unfold step at h
  split at h
  · simp at h
  · next hlive =>
      refine ⟨by simpa using hlive, ?_⟩
      cases a with
      | tick d =>
          simp only [Option.ite_none_right_eq_some, Option.some.injEq] at h
          rcases h with ⟨hd, rfl⟩
          exact .tick hd
      | post p =>
          simp only [Option.ite_none_right_eq_some, Option.some.injEq] at h
          rcases h with ⟨-, rfl⟩
          exact transition_post s p
      | poll event signal timer =>
          simp only [Option.ite_none_right_eq_some, Option.some.injEq] at h
          rcases h with ⟨⟨hjobs, -, -, htimer⟩, rfl⟩
          exact .poll hjobs htimer
      | work =>
          simp only at h
          split at h
          · simp at h
          · next job rest hjobs =>
              obtain rfl := Option.some.inj h
              exact transition_work hjobs

end HelpCovid.Background
