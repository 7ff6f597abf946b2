import HelpCovid.Background.Consistency

/-!
# No postponed task runs early

`hcv_bg_do_event` runs the head of the queue without a look at the clock, and
it is called for every wake-up, the one written by the post itself included. So
a run starts no task before its due time if and only if every event it handles
finds the head of the queue due (`notEarly_iff_headDue`).
-/

namespace HelpCovid.Background

/-- Every task that was run was started at its due time or later. -/
def NotEarly (s : State) : Prop :=
  ∀ e ∈ s.ran, ∃ p ∈ s.posts[e.1]?, p.due ≤ e.2

instance (s : State) : Decidable (NotEarly s) := inferInstanceAs (Decidable (∀ _ ∈ _, _))

/-- An event is handled only when the queue is empty or its head is due. -/
def HeadDue (s : State) (a : Action) : Prop :=
  a = .work → s.jobs.head? = some .doEvent → ∀ e ∈ s.todoMap.begin?, e.1 ≤ s.clock

/-- Posts do not change the posts made before. -/
theorem NotEarly.of_append {s s' : State} (hs : NotEarly s) {more : List Posting}
    (hran : s'.ran = s.ran) (hposts : s'.posts = s.posts ++ more) : NotEarly s' := by
  intro e he
  rw [hran] at he
  rcases hs e he with ⟨p, hp, hdue⟩
  refine ⟨p, ?_, hdue⟩
  rw [hposts, List.getElem?_append_left (List.getElem?_eq_some_iff.mp hp).1]
  exact hp

theorem NotEarly.of_eq {s s' : State} (hs : NotEarly s) (hran : s'.ran = s.ran)
    (hposts : s'.posts = s.posts) : NotEarly s' :=
  hs.of_append hran (hposts.trans (List.append_nil _).symm)

/-- The head of the queue is run in time when it is due, and only then. -/
theorem notEarly_run_iff {s : State} (hs : Consistent s) (he : NotEarly s) {k : ℚ} {todo : Todo}
    (hhead : s.todoMap[k]? = some todo) (jobs : List Job) :
    NotEarly { s with
      todoMap := s.todoMap.erase k
      ran := s.ran ++ [(todo.task, s.clock)]
      jobs := jobs } ↔ k ≤ s.clock := by
  have hdue := hs.due_eq k todo hhead
  rw [Option.map_eq_some_iff] at hdue
  rcases hdue with ⟨p, hp, hpk⟩
  constructor
  · intro h
    have hlast : (todo.task, s.clock) ∈ s.ran ++ [(todo.task, s.clock)] := by simp
    rcases h _ hlast with ⟨q, hq, hle⟩
    obtain rfl : p = q := Option.some.inj (hp.symm.trans hq)
    rw [← hpk]
    exact hle
  · intro hle e hmem
    rcases List.mem_append.mp hmem with hold | hnew
    · exact he e hold
    · obtain rfl := List.mem_singleton.mp hnew
      exact ⟨p, hp, hpk ▸ hle⟩

/-- **Timing.** In a run of posts, wake-ups, signals and timer expirations, every
task is started at its due time or later if and only if each event is handled
with an empty queue or with a head that is due. -/
theorem notEarly_iff_headDue (clock : ℚ) (as : List Action) :
    Machine.Throughout step (fun _ _ s' => NotEarly s') (.start clock) as ↔
      Machine.Throughout step (fun s a _ => HeadDue s a) (.start clock) as := by
  have hstart : NotEarly (.start clock) := by
    intro e he
    simp [State.start] at he
  refine @Machine.throughout_iff _ _ step (fun s => Consistent s ∧ NotEarly s) _ _ ?_ ?_ _
    ⟨.start clock, hstart⟩ as
  · -- one step
    rintro s a s' ⟨hs, he⟩ hstep
    rcases transition_of_step hstep with ⟨-, htrans⟩
    cases htrans with
    | @run rest k todo hjobs hhead =>
        -- the only step that starts a task
        rw [notEarly_run_iff hs he (StdMap.getElem?_of_begin? hhead)]
        constructor
        · intro hle _ _ e hmem
          rw [hhead, Option.mem_some_iff] at hmem
          rw [← hmem]
          exact hle
        · intro h
          exact h rfl (by simp [hjobs]) (k, todo) (by simp [hhead])
    | idle hjobs hempty =>
        refine iff_of_true (he.of_eq rfl rfl) fun _ _ e hmem => ?_
        simp [hempty] at hmem
    | post haccepted n b _ =>
        exact iff_of_true (he.of_append rfl rfl) fun hwork => by simp at hwork
    | abort hjobs hjob =>
        refine iff_of_true (he.of_eq rfl rfl) fun _ hevent => ?_
        simp [hjobs, hjob] at hevent
    | tick => exact iff_of_true (he.of_eq rfl rfl) fun hwork => by simp at hwork
    | refuse => exact iff_of_true (he.of_eq rfl rfl) fun hwork => by simp at hwork
    | poll => exact iff_of_true (he.of_eq rfl rfl) fun hwork => by simp at hwork
    | eventNone hjobs | event hjobs | stop hjobs | pipe hjobs | timer hjobs | rearm hjobs =>
        -- another job than an event
        refine iff_of_true (he.of_eq rfl rfl) fun _ hevent => ?_
        simp [hjobs] at hevent
  · rintro s a s' ⟨hs, -⟩ hstep he'
    exact ⟨hs.step (transition_of_step hstep).2, he'⟩

/-- A task posted with a delay of five seconds is run by the wake-up of its own
post, at once. -/
theorem notEarly_fails_at_wakeup :
    ∃ s, Machine.exec step (.start 0)
        [.post ⟨0, 5, true⟩, .poll true none false, .work, .work] = some s ∧
      s.ran = [(0, 0)] ∧ s.posts.map Posting.due = [5] ∧ ¬ NotEarly s := by
  have h : (Machine.exec step (.start 0)
      [.post ⟨0, 5, true⟩, .poll true none false, .work, .work]).any
      (fun s => decide (s.ran = [(0, 0)] ∧ s.posts.map Posting.due = [5] ∧ ¬ NotEarly s)) =
      true := by decide +kernel
  simpa [Option.any_eq_true] using h

end HelpCovid.Background
