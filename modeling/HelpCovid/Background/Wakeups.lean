import HelpCovid.Background.Consistency

/-!
# No due task is stranded

One event runs one task and arms the timer for the next, however many posts the
event descriptor has counted; when that timer expires the thread reads it and
does nothing else. So the queue stays covered, by a pending event or by an armed
timer, until the timer is read. The nanosecond that the timer is armed for is a
rounded product, and may be the one after the due time. A run strands no due task if
and only if the timer is only ever read when no task is due, and, unless the thread
is to stop, with an empty queue or a pending event, and no round ends with a timer
that is armed too late (`noneStranded_iff`).
-/

namespace HelpCovid.Background

/-- The queue is empty, an event is pending, or the timer is armed for the
earliest due time or before. -/
def Covered (s : State) : Prop :=
  (∀ k, k ∉ s.todoMap) ∨ s.eventCount ≠ 0 ∨
    ∃ ns, s.timer = some ns ∧ ∀ k ∈ s.todoMap, (ns : ℚ) ≤ k * 10 ^ 9

/-- The loop is at its poll. -/
def AboutToPoll (s : State) : Prop :=
  s.jobs = [] ∧ s.shouldStop = false ∧ s.aborted = false

/-- A step that handles the timer leaves no due task in the queue, and the queue
is covered whenever the thread is about to poll. -/
def NoneStranded (s : State) (a : Action) (s' : State) : Prop :=
  (a = .work → s.jobs.head? = some .readTimer → s'.aborted = false →
    ∀ k ∈ s'.todoMap, s'.clock < k) ∧
  (AboutToPoll s' → Covered s')

/-- The expired timer is read only when no task is due, and with an empty queue
or a pending event unless the thread is to stop. -/
def ReadTimerHarmless (s : State) (a : Action) : Prop :=
  a = .work → s.jobs.head? = some .readTimer → s.expired = true →
    (∀ k ∈ s.todoMap, s.clock < k) ∧
      (s.shouldStop = false → (∀ k, k ∉ s.todoMap) ∨ s.eventCount ≠ 0)

/-- The nanoseconds of the fraction of a time are below a whole number, by half a unit
in the last place at most. -/
def RoundsUp (time : ℚ) : Prop :=
  Int.fract time * 10 ^ 9 < ⌈Int.fract time * 10 ^ 9⌉ ∧
    ⌈Int.fract time * 10 ^ 9⌉ - Int.fract time * 10 ^ 9 ≤
      Binary64.ulp (Int.fract time * 10 ^ 9) / 2

instance (time : ℚ) : Decidable (RoundsUp time) := inferInstanceAs (Decidable (_ ∧ _))

/-- Where an event ends a round with no other event pending, and the thread is not to
stop, the nanoseconds of the earliest due time are not rounded up. -/
def ArmedInTime (s : State) (a : Action) : Prop :=
  a = .work → s.jobs = [.rearm] → s.shouldStop = false → s.eventCount = 0 →
    ∀ e ∈ s.todoMap.begin?, ¬ RoundsUp e.1

/-! ## The timer -/

theorem fract_mul_bounds (time : ℚ) :
    0 ≤ Int.fract time * 10 ^ 9 ∧ Int.fract time * 10 ^ 9 < 10 ^ 9 := by
  have hlow := Int.fract_nonneg time
  have hhigh := Int.fract_lt_one time
  constructor <;> linarith

/-- The timer is armed for the time or before unless the nanoseconds are rounded up. -/
theorem timerSpec_le_iff {time : ℚ} (h : 0 ≤ time) :
    (timerSpec time : ℚ) ≤ time * 10 ^ 9 ↔ ¬ RoundsUp time := by
  rcases fract_mul_bounds time with ⟨hlow, hhigh⟩
  have hsec : ((⌊time⌋.toNat : ℕ) : ℚ) = (⌊time⌋ : ℚ) := by
    exact_mod_cast Int.toNat_of_nonneg (Int.floor_nonneg.mpr h)
  have hnsec : (tvNsec time : ℚ) = (⌊Binary64.nearest (Int.fract time * 10 ^ 9)⌋ : ℚ) := by
    exact_mod_cast Int.toNat_of_nonneg
      (Int.floor_nonneg.mpr (Binary64.nearest_nonneg hlow))
  have htime : time * 10 ^ 9 = (⌊time⌋ : ℚ) * 10 ^ 9 + Int.fract time * 10 ^ 9 := by
    rw [← add_mul, Int.floor_add_fract]
  rw [RoundsUp, ← Binary64.lt_floor_nearest_iff hlow (hhigh.trans (by norm_num)), not_lt, ← hnsec,
    timerSpec, htime, Nat.cast_add, Nat.cast_mul, Nat.cast_pow, Nat.cast_ofNat, hsec,
    add_le_add_iff_left]

/-- The times of the program are far from the smallest double. -/
theorem smallest_le {x : ℚ} (h : 1 / 400 ≤ x) : (2 : ℚ) ^ (-1022 : ℤ) ≤ x := by
  refine le_trans (zpow_le_zpow_right₀ (by norm_num) (by decide : (-1022 : ℤ) ≤ -9)) ?_
  exact le_trans (by norm_num) h

/-- A time that is not too early does not disarm the timer. -/
theorem timerSpec_ne_zero {time : ℚ} (h : 1 / 400 ≤ time) : timerSpec time ≠ 0 := by
  rw [timerSpec]
  by_cases hsec : ⌊time⌋ = 0
  · have hfract : Int.fract time = time := by
      rw [Int.fract, hsec, Int.cast_zero, sub_zero]
    have hnear : (1 : ℚ) ≤ Binary64.nearest (Int.fract time * 10 ^ 9) := by
      rw [hfract]
      refine le_trans ?_ (Binary64.half_le_nearest (smallest_le ?_)) <;> linarith
    have hnsec : 1 ≤ ⌊Binary64.nearest (Int.fract time * 10 ^ 9)⌋ :=
      Int.le_floor.mpr (by exact_mod_cast hnear)
    rw [tvNsec]
    omega
  · have hnonneg : 0 ≤ ⌊time⌋ := Int.floor_nonneg.mpr (by linarith)
    omega

/-- The nanoseconds are fewer than a second has. -/
theorem tvNsec_lt (time : Binary64) (h : 0 ≤ time.val) : tvNsec time.val < 10 ^ 9 := by
  have hnear : Binary64.nearest (Int.fract time.val * 10 ^ 9) < 10 ^ 9 := by
    have hfract := Binary64.fract_val_le time h
    rcases fract_mul_bounds time.val with ⟨hlow, hhigh⟩
    have hmax : Int.fract time.val * 10 ^ 9 ≤ 10 ^ 9 - 10 ^ 9 / 2 ^ 53 := by linarith
    generalize Int.fract time.val * 10 ^ 9 = x at *
    rcases eq_or_ne x 0 with rfl | hne
    · rw [Binary64.nearest_zero]
      norm_num
    · have hulp : Binary64.ulp x ≤ 2 ^ (-23 : ℤ) := by
        refine Binary64.ulp_le hne ?_ (by decide)
        rw [abs_of_nonneg hlow]
        exact hhigh.trans (by norm_num)
      have hround := (abs_le.mp (Binary64.abs_sub_nearest_le x)).1
      norm_num at hulp hmax ⊢
      linarith
  have hfloor : ⌊Binary64.nearest (Int.fract time.val * 10 ^ 9)⌋ < 10 ^ 9 :=
    Int.floor_lt.mpr (by exact_mod_cast hnear)
  rw [tvNsec]
  omega

/-- The third of a second is armed for the nanosecond before it, three tenths for the one
after. -/
example : timerSpec (Binary64.ofRat (1 / 3)).val = 333333333 ∧
    timerSpec (Binary64.ofRat (3 / 10)).val = 300000000 ∧
    RoundsUp (Binary64.ofRat (3 / 10)).val := by
  decide +kernel

/-! ## Due times -/

theorem monotonicRealTime_nonneg (ns : Nat) : 0 ≤ (monotonicRealTime ns).val := by
  unfold monotonicRealTime
  rw [Binary64.val_add, Binary64.val_mul, Binary64.val_mul]
  have hmul : ∀ x y : Binary64, 0 ≤ x.val → 0 ≤ y.val → 0 ≤ Binary64.nearest (x.val * y.val) :=
    fun x y hx hy => Binary64.nearest_nonneg (mul_nonneg hx hy)
  refine Binary64.nearest_nonneg (add_nonneg (hmul _ _ ?_ ?_) (hmul _ _ ?_ ?_)) <;>
    exact Binary64.nearest_nonneg (by positivity)

/-- Due times are late enough for the timer to be armed. -/
theorem le_due (p : Posting) : 1 / 400 ≤ p.due := by
  have hminimal : 1 / 200 ≤ minimalDelay.val := by
    exact le_trans (by norm_num) (@Binary64.half_le_nearest (1 / 100) (smallest_le (by norm_num)))
  have hdelay : 1 / 200 ≤ (clampDelay p.delay).val := by
    unfold clampDelay
    split
    · exact hminimal
    · next hlong =>
        split
        · decide +kernel
        · exact hminimal.trans (le_of_not_gt hlong)
  have hreading := monotonicRealTime_nonneg p.reading
  rw [Posting.due, Binary64.val_add]
  refine le_trans ?_ (Binary64.half_le_nearest (smallest_le ?_)) <;> linarith

/-- The keys of the queue are due times. -/
theorem Consistent.exists_due {s : State} (hs : Consistent s) {k : ℚ} (hk : k ∈ s.todoMap) :
    ∃ p : Posting, p.due = k := by
  rcases Option.isSome_iff_exists.mp (Std.ExtTreeMap.mem_iff_isSome_getElem?.mp hk) with
    ⟨todo, hget⟩
  rcases Option.map_eq_some_iff.mp (hs.due_eq k todo hget) with ⟨p, -, hp⟩
  exact ⟨p, hp⟩


/-! ## The invariant -/

/-- The event is handled first, and the timer last. -/
def Ordered (jobs : List Job) : Prop := .readEvent ∉ jobs.tail ∧ .readTimer ∉ jobs.dropLast

theorem ordered_pollJobs (event : Bool) (signal : Option Signal) (timer : Bool) :
    Ordered (pollJobs event signal timer) := by
  cases event <;> cases signal <;> cases timer <;> simp [pollJobs, Ordered]

/-- The rest of the jobs is in order, also after an event that one of them makes. -/
theorem Ordered.rest {job : Job} {rest : List Job} (h : Ordered (job :: rest)) :
    Ordered rest ∧ .readEvent ∉ rest ∧
      ∀ j, j ≠ .readTimer → Ordered (j :: rest) := by
  rcases h with ⟨hevent, htimer⟩
  rw [List.tail_cons] at hevent
  have hrest : .readTimer ∉ rest.dropLast := by
    cases rest with
    | nil => simp
    | cons j rest =>
        rw [List.dropLast_cons_of_ne_nil (List.cons_ne_nil _ _)] at htimer
        exact fun hmem => htimer (List.mem_cons_of_mem _ hmem)
  refine ⟨⟨fun hmem => hevent (List.mem_of_mem_tail hmem), hrest⟩, hevent, fun j hj => ⟨hevent, ?_⟩⟩
  cases rest with
  | nil => simp
  | cons k rest =>
      rw [List.dropLast_cons_of_ne_nil (List.cons_ne_nil _ _), List.mem_cons, not_or]
      exact ⟨hj.symm, hrest⟩

theorem Ordered.step {s s' : State} {a : Action} (hs : Ordered s.jobs) (h : Transition s a s') :
    Ordered s'.jobs := by
  cases h with
  | poll => exact ordered_pollJobs _ _ _
  | idle hjobs =>
      rcases hjobs with hjobs | hjobs
      · exact (hjobs ▸ hs).rest.1
      · exact (hjobs ▸ hs).rest.1
  | eventNone hjobs | stop hjobs | timer hjobs | rearm hjobs => exact (hjobs ▸ hs).rest.1
  | event hjobs | pipe hjobs | run hjobs => exact (hjobs ▸ hs).rest.2.2 _ (by simp)
  | _ => exact hs

/-- The queue is covered, or the round goes on without a look at the event; unless the
thread is to stop or the process has aborted. -/
def Watched (s : State) : Prop :=
  Covered s ∨ (s.jobs ≠ [] ∧ .readEvent ∉ s.jobs) ∨ s.shouldStop = true ∨ s.aborted = true

/-- A watched queue is covered at the poll. -/
theorem Watched.covered {s : State} (hw : Watched s) (hpoll : AboutToPoll s) : Covered s := by
  rcases hpoll with ⟨hjobs, hstop, hlive⟩
  rcases hw with hcov | hgoing | hst | hab
  · exact hcov
  · exact absurd hjobs hgoing.1
  · simp [hstop] at hst
  · simp [hlive] at hab

/-- A step that keeps the queue, its wake-ups and the jobs keeps it watched. -/
theorem Watched.of_eq {s s' : State} (hw : Watched s) (hmap : s'.todoMap = s.todoMap)
    (hcount : s'.eventCount = s.eventCount) (htimer : s'.timer = s.timer)
    (hjobs : s'.jobs = s.jobs) (hstop : s'.shouldStop = s.shouldStop)
    (hlive : s'.aborted = s.aborted) : Watched s' := by
  unfold Watched Covered
  rw [hmap, hcount, htimer, hjobs, hstop, hlive]
  exact hw

/-- Where the event is still to be looked at, the queue is covered already. -/
theorem Watched.covered_or {s : State} (hw : Watched s) (hjobs : s.jobs = [] ∨ .readEvent ∈ s.jobs) :
    Covered s ∨ s.shouldStop = true ∨ s.aborted = true := by
  rcases hw with hcov | hgoing | hend
  · exact Or.inl hcov
  · rcases hjobs with hnil | hmem
    · exact absurd hnil hgoing.1
    · exact absurd hmem hgoing.2
  · exact Or.inr hend

/-- The steps that decide whether the queue is covered at the poll: the reading of the
expired timer, and the end of an event that is the end of the round. -/
def Deciding (s : State) (a : Action) : Prop :=
  a = .work ∧ (s.jobs.head? = some .readTimer ∧ s.expired = true ∨ s.jobs = [.rearm])

/-- Every other step keeps the queue watched. -/
theorem Watched.step {s s' : State} {a : Action} (hordered : Ordered s.jobs) (hw : Watched s)
    (h : Transition s a s') (hother : ¬ Deciding s a) : Watched s' := by
  cases h with
  | tick => exact hw.of_eq rfl rfl rfl rfl rfl rfl
  | refuse => exact Or.inr (Or.inr (Or.inr rfl))
  | post haccepted n b hn =>
      rcases hn with hn | hb
      · exact Or.inl (Or.inr (Or.inl hn))
      · exact Or.inr (Or.inr (Or.inr hb))
  | poll hjobs => exact (hw.covered_or (Or.inl hjobs)).imp_right Or.inr
  | eventNone hjobs => exact (hw.covered_or (Or.inr (by simp [hjobs]))).imp_right Or.inr
  | event hjobs | pipe hjobs | run hjobs =>
      exact Or.inr (Or.inl ⟨List.cons_ne_nil _ _, by simpa using (hjobs ▸ hordered).rest.2.1⟩)
  | stop => exact Or.inr (Or.inr (Or.inl rfl))
  | timer hjobs hexpired => exact absurd ⟨rfl, Or.inl ⟨by simp [hjobs], hexpired⟩⟩ hother
  | idle hjobs hempty => exact Or.inl (Or.inl ((StdMap.begin?_eq_none_iff _).mp hempty))
  | @rearm rest k todo hjobs hhead =>
      -- the round goes on after the event
      have hne : rest ≠ [] := by
        rintro rfl
        exact hother ⟨rfl, Or.inr hjobs⟩
      exact Or.inr (Or.inl ⟨hne, (hjobs ▸ hordered).rest.2.1⟩)
  | abort => exact Or.inr (Or.inr (Or.inr rfl))

/-! ## The reading of the timer -/

/-- The reading of the expired timer, with nothing left to do after it. -/
theorem Transition.readTimer {s s' : State} {a : Action} (h : Transition s a s')
    (hordered : Ordered s.jobs) (ha : a = .work) (hhead : s.jobs.head? = some .readTimer)
    (hexpired : s.expired = true) : s' = { s with timer := none, jobs := [] } := by
  cases h with
  | @timer rest hjobs =>
      have hlast := hordered.2
      rw [hjobs] at hlast
      rcases rest with - | ⟨j, rest⟩
      · rfl
      · simp [List.dropLast] at hlast
  | abort hjobs hjob htimer =>
      have hnot := htimer (by simpa [hjobs] using hhead)
      rw [hexpired] at hnot
      simp at hnot
  | idle hjobs =>
      rcases hjobs with hjobs | hjobs
      · simp [hjobs] at hhead
      · simp [hjobs] at hhead
  | eventNone hjobs | event hjobs | stop hjobs | pipe hjobs | run hjobs | rearm hjobs =>
      simp [hjobs] at hhead
  | _ => simp at ha

/-- A timer that has not expired cannot be handled. -/
theorem Transition.aborted {s s' : State} (h : Transition s .work s')
    (hhead : s.jobs.head? = some .readTimer) (hexpired : s.expired = false) :
    s'.aborted = true := by
  cases h with
  | timer hjobs hexp =>
      rw [hexpired] at hexp
      simp at hexp
  | abort => rfl
  | idle hjobs =>
      rcases hjobs with hjobs | hjobs
      · simp [hjobs] at hhead
      · simp [hjobs] at hhead
  | eventNone hjobs | event hjobs | stop hjobs | pipe hjobs | run hjobs | rearm hjobs =>
      simp [hjobs] at hhead

/-- After the timer was read, only an event can cover the queue. -/
theorem covered_readTimer_iff (s : State) (jobs : List Job) :
    Covered { s with timer := none, jobs := jobs } ↔
      (∀ k, k ∉ s.todoMap) ∨ s.eventCount ≠ 0 := by
  simp [Covered]

theorem noneStranded_readTimer_iff {s : State} {a : Action} (ha : a = .work)
    (hhead : s.jobs.head? = some .readTimer) (hexpired : s.expired = true)
    (hlive : s.aborted = false) :
    NoneStranded s a { s with timer := none, jobs := [] } ↔ ReadTimerHarmless s a := by
  unfold NoneStranded ReadTimerHarmless
  rw [covered_readTimer_iff]
  constructor
  · rintro ⟨hdue, hcov⟩ - - -
    exact ⟨hdue ha hhead hlive, fun hstop => hcov ⟨rfl, hstop, hlive⟩⟩
  · intro hharmless
    rcases hharmless ha hhead hexpired with ⟨hdue, hcov⟩
    exact ⟨fun _ _ _ => hdue, fun hpoll => hcov hpoll.2.1⟩

/-! ## The end of an event -/

/-- The timer of the next task covers the queue unless its nanoseconds are rounded up. -/
theorem covered_rearm_iff {s : State} (hs : Consistent s) {k : ℚ} {todo : Todo}
    (hhead : s.todoMap.begin? = some (k, todo)) (jobs : List Job) :
    Covered { s with
      timer := if timerSpec todo.time = 0 then none else some (timerSpec todo.time)
      jobs := jobs } ↔ s.eventCount ≠ 0 ∨ ¬ RoundsUp k := by
  have hget := StdMap.getElem?_of_begin? hhead
  have hk : k ∈ s.todoMap := Std.ExtTreeMap.mem_iff_isSome_getElem?.mpr (by simp [hget])
  rcases hs.exists_due hk with ⟨p, hp⟩
  have hmin : 1 / 400 ≤ k := hp ▸ le_due p
  have htimer := timerSpec_le_iff (le_trans (by norm_num) hmin)
  simp only [hs.time_eq k todo hget, timerSpec_ne_zero hmin, if_false, Covered, ← htimer,
    Option.some.injEq, exists_eq_left']
  constructor
  · rintro (hempty | hcount | harmed)
    · exact absurd hk (hempty k)
    · exact Or.inl hcount
    · exact Or.inr (harmed k hk)
  · rintro (hcount | harmed)
    · exact Or.inr (Or.inl hcount)
    · refine Or.inr (Or.inr fun j hj => harmed.trans ?_)
      exact mul_le_mul_of_nonneg_right (StdMap.begin?_le hhead hj) (by norm_num)

/-- No due time is refused. -/
theorem Consistent.not_refusedTime {s : State} (hs : Consistent s) {e : ℚ × Todo}
    (he : e ∈ s.todoMap.begin?) : ¬ RefusedTime e.2.time := by
  have hget := StdMap.getElem?_of_begin? he
  have hk : e.1 ∈ s.todoMap := Std.ExtTreeMap.mem_iff_isSome_getElem?.mpr (by simp [hget])
  rcases hs.exists_due hk with ⟨p, hp⟩
  have hmin := hp ▸ le_due p
  have hnonneg : 0 ≤ e.1 := le_trans (by norm_num) hmin
  rw [hs.time_eq e.1 e.2 hget, RefusedTime, not_or, not_lt, not_le]
  refine ⟨hnonneg, ?_⟩
  rw [← hp] at hnonneg ⊢
  exact tvNsec_lt _ hnonneg

/-- The end of an event that is the end of the round. -/
theorem noneStranded_rearm_iff {s s' : State} (hs : Consistent s) (hlive : s.aborted = false)
    (h : Transition s .work s') (hjobs : s.jobs = [.rearm]) :
    s'.jobs = [] ∧ (NoneStranded s .work s' ↔ ArmedInTime s .work) := by
  have hnot : s.jobs.head? ≠ some .readTimer := by simp [hjobs]
  have hcovered : NoneStranded s .work s' ↔ (AboutToPoll s' → Covered s') :=
    and_iff_right fun _ hhead => absurd hhead hnot
  rw [hcovered, ArmedInTime]
  cases h with
  | @idle rest hcur hempty =>
      have hrest : rest = [] := by simpa [hjobs] using hcur
      have hcov : Covered { s with jobs := rest } :=
        Or.inl ((StdMap.begin?_eq_none_iff _).mp hempty)
      exact ⟨hrest, iff_of_true (fun _ => hcov) (by simp [hempty])⟩
  | @rearm rest k todo hcur hhead =>
      have hrest : rest = [] := by simpa [hjobs] using hcur.symm
      subst hrest
      refine ⟨rfl, ?_⟩
      rw [covered_rearm_iff hs hhead]
      simp only [hhead, hjobs, AboutToPoll, hlive, Option.mem_some_iff, forall_eq', true_and,
        and_true, forall_const, or_iff_not_imp_left, not_not]
  | @abort job rest hcur _ _ hrefused =>
      obtain rfl : job = .rearm := (List.cons.inj (hjobs.symm.trans hcur)).1.symm
      rcases hrefused rfl with ⟨e, he, hrefused⟩
      exact absurd hrefused (hs.not_refusedTime he)
  | eventNone hcur | event hcur | stop hcur | pipe hcur | timer hcur | run hcur =>
      simp [hjobs] at hcur

/-! ## The runs -/

/-- What makes a step strand a task. -/
theorem noneStranded_step_iff {s s' : State} {a : Action} (hs : Consistent s)
    (hordered : Ordered s.jobs) (hw : Watched s) (hlive : s.aborted = false)
    (h : Transition s a s') :
    NoneStranded s a s' ↔ ReadTimerHarmless s a ∧ ArmedInTime s a := by
  by_cases hdeciding : Deciding s a
  · rcases hdeciding with ⟨ha, ⟨hhead, hexpired⟩ | hjobs⟩
    · -- the expired timer is read, and the thread goes on to its poll
      obtain rfl := h.readTimer hordered ha hhead hexpired
      rw [noneStranded_readTimer_iff ha hhead hexpired hlive]
      refine (and_iff_left fun _ hjobs => ?_).symm
      simp [hjobs] at hhead
    · subst ha
      rw [(noneStranded_rearm_iff hs hlive h hjobs).2]
      refine (and_iff_right fun _ hhead => ?_).symm
      simp [hjobs] at hhead
  · -- any other step keeps the queue watched
    refine iff_of_true ⟨?_, (hw.step hordered h hdeciding).covered⟩ ⟨?_, ?_⟩
    · rintro rfl hhead habort
      have hexpired : s.expired = false := by
        by_contra hexpired
        exact hdeciding ⟨rfl, Or.inl ⟨hhead, by simpa using hexpired⟩⟩
      rw [h.aborted hhead hexpired] at habort
      simp at habort
    · intro ha hhead hexpired
      exact absurd ⟨ha, Or.inl ⟨hhead, hexpired⟩⟩ hdeciding
    · intro ha hjobs
      exact absurd ⟨ha, Or.inr hjobs⟩ hdeciding

/-- A step that strands no task keeps the queue watched. -/
theorem Watched.of_noneStranded {s s' : State} {a : Action} (hs : Consistent s)
    (hordered : Ordered s.jobs) (hw : Watched s) (hlive : s.aborted = false)
    (h : Transition s a s') (hnone : NoneStranded s a s') : Watched s' := by
  by_cases hdeciding : Deciding s a
  · have hend : s'.jobs = [] := by
      rcases hdeciding with ⟨ha, ⟨hhead, hexpired⟩ | hjobs⟩
      · rw [h.readTimer hordered ha hhead hexpired]
      · subst ha
        exact (noneStranded_rearm_iff hs hlive h hjobs).1
    by_cases hstop : s'.shouldStop = true
    · exact Or.inr (Or.inr (Or.inl hstop))
    by_cases hdead : s'.aborted = true
    · exact Or.inr (Or.inr (Or.inr hdead))
    · exact Or.inl (hnone.2 ⟨hend, by simpa using hstop, by simpa using hdead⟩)
  · exact hw.step hordered h hdeciding

/-- **Wake-ups.** In a run of posts, wake-ups, signals and timer expirations, no
due task is stranded if and only if every read of the expired timer finds no
task due and, unless the thread is to stop, an empty queue or a pending event, and no
event that ends a round arms the timer for a due time that is rounded up. -/
theorem noneStranded_iff (clock : ℚ) (as : List Action) :
    Machine.Throughout step NoneStranded (.start clock) as ↔
      Machine.Throughout step (fun s a _ => ReadTimerHarmless s a ∧ ArmedInTime s a)
        (.start clock) as := by
  have hordered : Ordered (State.start clock).jobs := by simp [State.start, Ordered]
  have hstart : Watched (.start clock) := Or.inl (Or.inl (by simp [State.start]))
  refine @Machine.throughout_iff _ _ step
    (fun s => Consistent s ∧ Ordered s.jobs ∧ Watched s) _ _ ?_ ?_ _
    ⟨.start clock, hordered, hstart⟩ as
  · rintro s a s' ⟨hs, hordered, hw⟩ hstep
    rcases transition_of_step hstep with ⟨hlive, htrans⟩
    exact noneStranded_step_iff hs hordered hw hlive htrans
  · rintro s a s' ⟨hs, hordered, hw⟩ hstep hnone
    rcases transition_of_step hstep with ⟨hlive, htrans⟩
    exact ⟨hs.step htrans, hordered.step htrans, hw.of_noneStranded hs hordered hlive htrans hnone⟩

/-- Two posts, one wake-up for both, and the timer: the second task is due, stays
in the queue, and nothing is left to wake the thread for it. -/
theorem noneStranded_fails_on_coalesced_posts :
    ∃ s, Machine.exec step (.start 0)
        [.post ⟨0, 1, true⟩, .post ⟨0, 2, true⟩, .tick 1, .poll true none false, .work, .work,
          .work, .tick 1, .poll false none true, .work] = some s ∧
      AboutToPoll s ∧ s.clock = 2 ∧ s.todoMap.toList.map Prod.fst = [2] ∧ ¬ Covered s := by
  have h : (Machine.exec step (.start 0)
      [.post ⟨0, 1, true⟩, .post ⟨0, 2, true⟩, .tick 1, .poll true none false, .work, .work,
        .work, .tick 1, .poll false none true, .work]).any
      (fun s => decide ((s.jobs = [] ∧ s.shouldStop = false ∧ s.aborted = false) ∧
        s.clock = 2 ∧ s.todoMap.toList.map Prod.fst = [2] ∧ s.eventCount = 0 ∧
        s.timer = none)) = true := by
    decide +kernel
  rcases (Option.any_eq_true _ _).mp h with ⟨s, hrun, hs⟩
  rcases of_decide_eq_true hs with ⟨hpoll, hclock, hqueue, hcount, htimer⟩
  refine ⟨s, hrun, hpoll, hclock, hqueue, ?_⟩
  rintro (hempty | hevent | ⟨ns, harmed, -⟩)
  · have hnone := (StdMap.begin?_eq_none_iff _).mpr hempty
    rw [StdMap.begin?, List.head?_eq_none_iff] at hnone
    simp [hnone] at hqueue
  · exact hevent hcount
  · simp [htimer] at harmed

/-- A timer that is armed for the nanosecond after the due time of three tenths. -/
example : (Machine.exec step (.start 0)
    [.post ⟨0, .ofRat (1 / 10), true⟩, .post ⟨0, .ofRat (3 / 10), true⟩, .poll true none false,
      .work, .work, .work]).any (fun s => decide (s.jobs = [] ∧ s.eventCount = 0 ∧
        s.timer = some 300000000 ∧ ∀ e ∈ s.todoMap.begin?, e.1 * 10 ^ 9 < 300000000)) = true := by
  decide +kernel

end HelpCovid.Background
