import HelpCovid.Background.Model

/-!
# The queue and its history

The facts about the queue of postponed tasks that hold in every run, whatever
the order of posts and wake-ups: the key of a task is the due time of its post,
a task is run at most once, and a task that was run is not in the queue.
-/

namespace HelpCovid.Background

/-- The keys of the queue are the due times of the posts; a task is run at most
once and is not in the queue afterwards. -/
structure Consistent (s : State) : Prop where
  time_eq : ∀ (k : ℚ) (todo : Todo), s.todoMap[k]? = some todo → todo.time = k
  due_eq : ∀ (k : ℚ) (todo : Todo), s.todoMap[k]? = some todo →
    (s.posts[todo.task]?).map Posting.due = some k
  ran_nodup : (s.ran.map Prod.fst).Nodup
  ran_lt : ∀ i ∈ s.ran.map Prod.fst, i < s.posts.length
  notMem_ran : ∀ (k : ℚ) (todo : Todo), s.todoMap[k]? = some todo →
    todo.task ∉ s.ran.map Prod.fst

theorem Consistent.start (clock : ℚ) : Consistent (.start clock) := by
  constructor <;> simp [State.start]

theorem Consistent.task_lt {s : State} (hs : Consistent s) {k : ℚ} {todo : Todo}
    (h : s.todoMap[k]? = some todo) : todo.task < s.posts.length := by
  have hdue := hs.due_eq k todo h
  rw [Option.map_eq_some_iff] at hdue
  rcases hdue with ⟨p, hp, -⟩
  exact (List.getElem?_eq_some_iff.mp hp).1

/-- A binding after an insertion is the new one or an old one. -/
theorem getElem?_insert {s : State} {p : Posting} {k : ℚ} {todo : Todo}
    (h : (s.insert p).todoMap[k]? = some todo) :
    (k = p.due ∧ todo = ⟨p.due, s.posts.length⟩) ∨ s.todoMap[k]? = some todo := by
  by_cases hk : k = p.due
  · subst hk
    simp only [State.insert, StdMap.getElem?_insertIfNew_self, Option.some.injEq] at h
    -- a binding that was there stays
    cases hold : s.todoMap[p.due]? with
    | none => exact Or.inl ⟨rfl, by rw [← h, hold, Option.getD_none]⟩
    | some old => exact Or.inr (by rw [← h, hold, Option.getD_some])
  · simp only [State.insert, StdMap.getElem?_insertIfNew_of_ne _ _ hk] at h
    exact Or.inr h

theorem Consistent.insert {s : State} (hs : Consistent s) (p : Posting) :
    Consistent (s.insert p) where
  time_eq := by
    intro k todo h
    rcases getElem?_insert h with ⟨rfl, rfl⟩ | hold
    · rfl
    · exact hs.time_eq k todo hold
  due_eq := by
    intro k todo h
    rcases getElem?_insert h with ⟨rfl, rfl⟩ | hold
    · simp [State.insert]
    · have hlt := hs.task_lt hold
      simpa [State.insert, List.getElem?_append_left hlt] using hs.due_eq k todo hold
  ran_nodup := hs.ran_nodup
  ran_lt := by
    intro i hi
    have hlt := hs.ran_lt i hi
    simp only [State.insert, List.length_append]
    omega
  notMem_ran := by
    intro k todo h
    rcases getElem?_insert h with ⟨rfl, rfl⟩ | hold
    · intro hmem
      exact absurd (hs.ran_lt _ hmem) (Nat.lt_irrefl _)
    · exact hs.notMem_ran k todo hold

/-- A binding after the removal of a key was there before. -/
theorem getElem?_of_getElem?_erase {m : StdMap ℚ Todo} {k j : ℚ} {todo : Todo}
    (h : (m.erase k)[j]? = some todo) : j ≠ k ∧ m[j]? = some todo := by
  by_cases hj : j = k
  · subst hj
    simp at h
  · rw [StdMap.getElem?_erase_of_ne m hj] at h
    exact ⟨hj, h⟩

/-- Running the head of the queue. -/
theorem Consistent.run {s : State} (hs : Consistent s) {k : ℚ} {todo : Todo}
    (hhead : s.todoMap[k]? = some todo) (jobs : List Job) :
    Consistent { s with
      todoMap := s.todoMap.erase k
      ran := s.ran ++ [(todo.task, s.clock)]
      jobs := jobs } where
  time_eq j t h := hs.time_eq j t (getElem?_of_getElem?_erase h).2
  due_eq j t h := hs.due_eq j t (getElem?_of_getElem?_erase h).2
  ran_nodup := by
    rw [List.map_append, List.nodup_append]
    refine ⟨hs.ran_nodup, by simp, ?_⟩
    intro i hi j hj heq
    obtain rfl : j = todo.task := by simpa using hj
    exact hs.notMem_ran k todo hhead (heq ▸ hi)
  ran_lt := by
    intro i hi
    rw [List.map_append, List.mem_append] at hi
    rcases hi with hi | hi
    · exact hs.ran_lt i hi
    · obtain rfl : i = todo.task := by simpa using hi
      exact hs.task_lt hhead
  notMem_ran := by
    intro j t h
    rcases getElem?_of_getElem?_erase h with ⟨hne, hold⟩
    rw [List.map_append, List.mem_append, not_or]
    refine ⟨hs.notMem_ran j t hold, ?_⟩
    -- the same task under two keys would have two due times
    intro hmem
    have htask : t.task = todo.task := by simpa using hmem
    have hdue := hs.due_eq j t hold
    rw [htask, hs.due_eq k todo hhead] at hdue
    exact hne (Option.some.inj hdue).symm

/-- Every step keeps the queue consistent with its history. -/
theorem Consistent.step {s s' : State} {a : Action} (hs : Consistent s)
    (h : Transition s a s') : Consistent s' := by
  cases h with
  | @post p _ n b _ =>
      have hins := hs.insert p
      exact ⟨hins.time_eq, hins.due_eq, hins.ran_nodup, hins.ran_lt, hins.notMem_ran⟩
  | run hjobs hhead => exact hs.run (StdMap.getElem?_of_begin? hhead) _
  -- the other steps touch neither the queue nor the history
  | _ =>
      exact ⟨hs.time_eq, hs.due_eq, hs.ran_nodup, hs.ran_lt, hs.notMem_ran⟩

end HelpCovid.Background
