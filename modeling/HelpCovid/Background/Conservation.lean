import HelpCovid.Background.Consistency

/-!
# No postponed task is lost

The queue is a map keyed by the due time, and a post whose due time is a key
already is dropped by `insert`: the task is accepted and never queued. A run
keeps every task if and only if no accepted post meets its due time in the
queue (`conserved_iff_fresh`).
-/

namespace HelpCovid.Background

/-- The tasks in `hcv_todo_map`. -/
def State.queued (s : State) : List Nat := s.todoMap.toList.map fun e => e.2.task

/-- Every accepted task was run at most once, and is in the queue if it was not
run. -/
def Conserved (s : State) : Prop :=
  ∀ i < s.posts.length, (s.ran.map Prod.fst).count i ≤ 1 ∧
    (i ∉ s.ran.map Prod.fst → i ∈ s.queued)

instance (s : State) : Decidable (Conserved s) := inferInstanceAs (Decidable (∀ _, _))

/-- An accepted post finds its due time free. -/
def FreshPost (s : State) (a : Action) : Prop :=
  ∀ p, a = .post p → Accepted s p → p.due ∉ s.todoMap

/-- Conservation is about the queue and the history only. -/
theorem Conserved.of_eq {s s' : State} (hc : Conserved s) (hmap : s'.todoMap = s.todoMap)
    (hposts : s'.posts = s.posts) (hran : s'.ran = s.ran) : Conserved s' := by
  unfold Conserved State.queued
  rw [hmap, hposts, hran]
  exact hc

theorem mem_queued_iff {s : State} {i : Nat} :
    i ∈ s.queued ↔ ∃ (k : ℚ) (todo : Todo), s.todoMap[k]? = some todo ∧ todo.task = i := by
  simp only [State.queued, List.mem_map, Prod.exists, Std.ExtTreeMap.mem_toList_iff_getElem?_eq_some]

/-- The task just posted is conserved when its due time was free, and only then. -/
theorem conserved_insert_iff {s : State} (hs : Consistent s) (hc : Conserved s) (p : Posting) :
    Conserved (s.insert p) ↔ p.due ∉ s.todoMap := by
  have hnew : s.posts.length ∉ s.ran.map Prod.fst := by
    intro hmem
    exact absurd (hs.ran_lt _ hmem) (Nat.lt_irrefl _)
  constructor
  · intro h hmem
    have hlt : s.posts.length < (s.insert p).posts.length := by simp [State.insert]
    have hqueued := (h s.posts.length hlt).2 hnew
    -- the queue has not changed, and holds earlier tasks only
    rcases mem_queued_iff.mp hqueued with ⟨k, todo, hget, htask⟩
    simp only [State.insert, StdMap.insertIfNew_of_mem _ _ hmem] at hget
    have := hs.task_lt hget
    omega
  · intro hfresh i hi
    simp only [State.insert, List.length_append, List.length_singleton] at hi
    have hcases : i < s.posts.length ∨ i = s.posts.length := by omega
    rcases hcases with hold | rfl
    · refine ⟨(hc i hold).1, fun hran => ?_⟩
      rcases mem_queued_iff.mp ((hc i hold).2 hran) with ⟨k, todo, hget, htask⟩
      refine mem_queued_iff.mpr ⟨k, todo, ?_, htask⟩
      -- an earlier task is under another key
      have hk : k ≠ p.due := by
        rintro rfl
        exact hfresh (Std.ExtTreeMap.mem_iff_isSome_getElem?.mpr (by simp [hget]))
      simp only [State.insert]
      rw [StdMap.getElem?_insertIfNew_of_ne _ _ hk, hget]
    · refine ⟨?_, fun _ => ?_⟩
      · show (s.ran.map Prod.fst).count s.posts.length ≤ 1
        rw [List.count_eq_zero.mpr hnew]
        exact Nat.zero_le 1
      · refine mem_queued_iff.mpr ⟨p.due, ⟨p.due, s.posts.length⟩, ?_, rfl⟩
        simp only [State.insert]
        rw [StdMap.getElem?_insertIfNew_self, Std.ExtTreeMap.getElem?_eq_none hfresh,
          Option.getD_none]

/-- Running the head of the queue loses nothing. -/
theorem Conserved.run {s : State} (hs : Consistent s) (hc : Conserved s) {k : ℚ} {todo : Todo}
    (hhead : s.todoMap[k]? = some todo) (jobs : List Job) :
    Conserved { s with
      todoMap := s.todoMap.erase k
      ran := s.ran ++ [(todo.task, s.clock)]
      jobs := jobs } := by
  have hnodup := (hs.run hhead jobs).ran_nodup
  intro i hi
  refine ⟨List.nodup_iff_count.mp hnodup i, fun hran => ?_⟩
  rw [List.map_append, List.mem_append, not_or] at hran
  rcases mem_queued_iff.mp ((hc i hi).2 hran.1) with ⟨j, t, hget, htask⟩
  refine mem_queued_iff.mpr ⟨j, t, ?_, htask⟩
  have hj : j ≠ k := by
    rintro rfl
    rw [hhead] at hget
    obtain rfl := Option.some.inj hget
    simp [htask] at hran
  show (s.todoMap.erase k)[j]? = some t
  rw [StdMap.getElem?_erase_of_ne _ hj, hget]

/-- **Conservation.** In a run of posts, wake-ups, timer expirations and signals,
every accepted task is run at most once and stays in the queue until it is run,
if and only if no accepted post has a due time that is in the queue already. -/
theorem conserved_iff_fresh (clock : ℚ) (as : List Action) :
    Machine.Throughout step (fun _ _ s' => Conserved s') (.start clock) as ↔
      Machine.Throughout step (fun s a _ => FreshPost s a) (.start clock) as := by
  have hstart : Conserved (.start clock) := by
    intro i hi
    simp [State.start] at hi
  refine @Machine.throughout_iff _ _ step (fun s => Consistent s ∧ Conserved s) _ _ ?_ ?_ _
    ⟨.start clock, hstart⟩ as
  · -- one step
    rintro s a s' ⟨hs, hc⟩ hstep
    rcases transition_of_step hstep with ⟨-, htrans⟩
    cases htrans with
    | @post p haccepted n b _ =>
        have hins := conserved_insert_iff hs hc p
        constructor
        · intro h q hq _
          obtain rfl : p = q := by simpa using hq
          exact hins.mp (h.of_eq rfl rfl rfl)
        · intro h
          exact (hins.mpr (h p rfl haccepted)).of_eq rfl rfl rfl
    | @refuse p hrefused =>
        -- nothing is accepted
        refine iff_of_true (hc.of_eq rfl rfl rfl) fun q hq hacc => ?_
        obtain rfl : p = q := by simpa using hq
        exact absurd hacc hrefused
    | run hjobs hhead =>
        exact iff_of_true (hc.run hs (StdMap.getElem?_of_begin? hhead) _) fun p hp => by
          simp at hp
    | _ => exact iff_of_true (hc.of_eq rfl rfl rfl) fun p hp => by simp at hp
  · rintro s a s' ⟨hs, -⟩ hstep hc'
    exact ⟨hs.step (transition_of_step hstep).2, hc'⟩

/-- Two posts of the same due time: the second task is lost. -/
theorem conserved_fails_on_equal_due :
    ∃ s, Machine.exec step (.start 0) [.post ⟨0, 1, true⟩, .post ⟨0, 1, true⟩] = some s ∧
      s.aborted = false ∧ ¬ Conserved s := by
  have h : (Machine.exec step (.start 0) [.post ⟨0, 1, true⟩, .post ⟨0, 1, true⟩]).any
      (fun s => decide (s.aborted = false ∧ ¬ Conserved s)) = true := by decide +kernel
  simpa [Option.any_eq_true] using h

/-- A hundred seconds and a delay of one second, or of a little more, are one due time. -/
example : (Binary64.ofRat (1 + 1 / 2 ^ 52)).val = 1 + 1 / 2 ^ 52 ∧
    Posting.due ⟨100 * 10 ^ 9, .ofRat (1 + 1 / 2 ^ 52), true⟩ =
      Posting.due ⟨100 * 10 ^ 9, 1, true⟩ := by
  decide +kernel

end HelpCovid.Background
