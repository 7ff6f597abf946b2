import HelpCovid.Database.Transactions

/-!
# One transaction at a time

What a thread knows about the connection at each point of its code is a mode:
nothing without the lock; with it, after its transaction began, that no other
one is open; and after its transaction ended, that none is. `disciplined` checks
the code of a thread against the modes, and every function passes the check
(`disciplined_program`). A thread that passes keeps what the other threads know,
so the modes hold in every reachable state whatever the order of the threads.
-/

namespace HelpCovid.Database

/-- What a thread knows of the lock and the open transactions. -/
inductive Mode where
  /-- it does not hold the lock -/
  | free
  /-- it holds the lock -/
  | held
  /-- it holds the lock and no other thread has an open transaction -/
  | own
  /-- it holds the lock and no transaction is open -/
  | clear
deriving Repr, DecidableEq

/-- The mode after an operation; `none` for an operation the mode does not allow. -/
def Mode.next (m : Mode) : Op → Option Mode
  | .lock => if m = .free then some .held else none
  | .unlock => if m = .free then none else some .free
  | .beginWork => if m = .free then none else some .own
  | .prepared => some m
  | .exec => some m
  | .commit => some (if m = .own then .clear else m)
  | .destroy => some (if m = .own then .clear else m)
  | .reset => if m = .clear then some .clear else none

/-- Code that runs from a mode to the end of a call without the lock. -/
def unwinds : Mode → List Op → Bool
  | m, [] => m == .free
  | m, op :: ops =>
      !op.canThrow && (match m.next op with
        | none => false
        | some m' => unwinds m' ops)

/-- The same for code whose operations may throw. -/
def disciplined : Mode → List Instr → Bool
  | m, [] => m == .free
  | m, i :: is =>
      (!i.op.canThrow || unwinds m i.unwind) && (match m.next i.op with
        | none => false
        | some m' => disciplined m' is)

/-- Every function keeps the discipline. -/
theorem disciplined_program (f : Function) : disciplined .free f.program = true := by
  cases f <;> decide

theorem disciplined_unwinding {m : Mode} {i : Instr} (h : unwinds m i.unwind = true) :
    disciplined m i.unwinding = true := by
  unfold Instr.unwinding
  generalize i.unwind = ops at h
  induction ops generalizing m with
  | nil => exact h
  | cons op ops ih =>
      simp only [unwinds, Bool.and_eq_true, Bool.not_eq_true'] at h
      rcases h with ⟨hthrow, hnext⟩
      simp only [List.map_cons, disciplined, hthrow, Bool.not_false, Bool.true_or, Bool.true_and]
      cases hm : m.next op with
      | none => simp [hm] at hnext
      | some m' =>
          simp only [hm] at hnext
          exact ih hnext

theorem disciplined_cons {m : Mode} {i : Instr} {is : List Instr}
    (h : disciplined m (i :: is) = true) :
    (i.op.canThrow = true → unwinds m i.unwind = true) ∧
      ∃ m', m.next i.op = some m' ∧ disciplined m' is = true := by
  simp only [disciplined, Bool.and_eq_true, Bool.or_eq_true, Bool.not_eq_true'] at h
  rcases h with ⟨hthrow, hnext⟩
  constructor
  · intro hcan
    rcases hthrow with hcannot | hunwinds
    · simp [hcan] at hcannot
    · exact hunwinds
  · cases hm : m.next i.op with
    | none => simp [hm] at hnext
    | some m' =>
        simp only [hm] at hnext
        exact ⟨m', rfl, hnext⟩

variable {Tid : Type*}

/-- What a mode says of the state. -/
def Holds (s : State Tid) (t : Tid) : Mode → Prop
  | .free => s.lockOwner ≠ some t
  | .held => s.lockOwner = some t
  | .own => s.lockOwner = some t ∧ ∀ u ∈ s.openTxns, u = t
  | .clear => s.lockOwner = some t ∧ s.openTxns = []

/-- Every thread is in a mode its code is disciplined from. -/
structure Serialized (s : State Tid) : Prop where
  modes : ∀ t, ∃ m, Holds s t m ∧ disciplined m (s.code t) = true
  one : s.openTxns.length ≤ 1

theorem Holds.lockOwner_eq {s : State Tid} {t : Tid} {m : Mode} (h : Holds s t m)
    (hm : m ≠ .free) : s.lockOwner = some t := by
  cases m with
  | free => exact absurd rfl hm
  | held => exact h
  | own => exact h.1
  | clear => exact h.1

/-- While a thread holds the lock all others are without it. -/
theorem Holds.eq_free {s : State Tid} {t u : Tid} {m : Mode} (h : Holds s u m)
    (hlock : s.lockOwner = some t) (hne : u ≠ t) : m = .free := by
  by_contra hm
  have hu := h.lockOwner_eq hm
  rw [hlock, Option.some.injEq] at hu
  exact hne hu.symm

/-- A mode survives when the lock stays and no transaction begins. -/
theorem Holds.of_subset {s s' : State Tid} {t : Tid} {m : Mode} (h : Holds s t m)
    (hlock : s'.lockOwner = s.lockOwner) (hopen : ∀ u ∈ s'.openTxns, u ∈ s.openTxns) :
    Holds s' t m := by
  cases m with
  | free =>
      intro hown
      exact h (hlock ▸ hown)
  | held => exact hlock.trans h
  | own => exact ⟨hlock.trans h.1, fun u hu => h.2 u (hopen u hu)⟩
  | clear =>
      refine ⟨hlock.trans h.1, List.eq_nil_iff_forall_not_mem.mpr fun u hu => ?_⟩
      have hmem := hopen u hu
      rw [h.2] at hmem
      simp at hmem

theorem Serialized.start : Serialized (State.start : State Tid) where
  modes t := ⟨.free, by simp [Holds, State.start], rfl⟩
  one := by simp [State.start]

/-- A thread that is about to reset the connection finds no open transaction. -/
theorem Serialized.openTxns_eq_nil {s : State Tid} (hs : Serialized s) {t : Tid} {i : Instr}
    {rest : List Instr} (hcode : s.code t = i :: rest) (hreset : i.op = .reset) :
    s.openTxns = [] := by
  rcases hs.modes t with ⟨m, hm, hdisc⟩
  rw [hcode] at hdisc
  rcases (disciplined_cons hdisc).2 with ⟨m', hnext, -⟩
  simp only [hreset, Mode.next, Option.ite_none_right_eq_some] at hnext
  rcases hnext with ⟨rfl, -⟩
  exact hm.2

variable [DecidableEq Tid]

/-- The step of one thread, from its own mode to the next, seen by all. -/
theorem Serialized.advance {s s' : State Tid} (hs : Serialized s) {t : Tid} {m : Mode}
    {code : List Instr} (hcode : s'.code = Function.update s.code t code)
    (hown : Holds s' t m) (hdisc : disciplined m code = true)
    (hothers : ∀ u mu, u ≠ t → Holds s u mu → Holds s' u mu)
    (hone : s'.openTxns.length ≤ 1) : Serialized s' where
  modes := by
    intro u
    rw [hcode]
    by_cases hu : u = t
    · subst hu
      exact ⟨m, hown, by rw [Function.update_self]; exact hdisc⟩
    · rcases hs.modes u with ⟨mu, hmu, hdu⟩
      exact ⟨mu, hothers u mu hu hmu, by rw [Function.update_of_ne hu]; exact hdu⟩
  one := hone

/-- A thread goes on without a change of the lock or the transactions. -/
theorem Serialized.goto {s : State Tid} (hs : Serialized s) {t : Tid} {m : Mode}
    (hm : Holds s t m) {code : List Instr} (hdisc : disciplined m code = true) :
    Serialized (s.goto t code) :=
  hs.advance rfl (hm.of_subset rfl fun _ h => h) hdisc
    (fun _ _ _ h => h.of_subset rfl fun _ h => h) hs.one

/-- The end of a transaction. -/
theorem Holds.endTxn {s : State Tid} {t : Tid} {m : Mode} (h : Holds s t m)
    (code : List Instr) :
    Holds { s.goto t code with openTxns := s.openTxns.filter (· ≠ t) } t
      (if m = .own then .clear else m) := by
  by_cases hown : m = .own
  · subst hown
    rw [if_pos rfl]
    refine ⟨h.1, List.filter_eq_nil_iff.mpr fun u hu => ?_⟩
    simpa using h.2 u hu
  · rw [if_neg hown]
    exact h.of_subset rfl fun u hu => List.mem_of_mem_filter hu

theorem Serialized.endTxn {s : State Tid} (hs : Serialized s) {t : Tid} {m : Mode}
    (hm : Holds s t m) {code : List Instr}
    (hdisc : disciplined (if m = .own then .clear else m) code = true) :
    Serialized { s.goto t code with openTxns := s.openTxns.filter (· ≠ t) } :=
  hs.advance rfl (hm.endTxn code) hdisc
    (fun _ _ _ h => h.of_subset rfl fun _ hu => List.mem_of_mem_filter hu)
    (Nat.le_trans (List.length_filter_le _ _) hs.one)

/-- An operation of a disciplined thread. -/
theorem Serialized.runInstr {s s' : State Tid} (hs : Serialized s) {t : Tid} {i : Instr}
    {rest : List Instr} (hcode : s.code t = i :: rest) (h : runInstr s t i rest = some s') :
    Serialized s' := by
  rcases hs.modes t with ⟨m, hm, hdisc⟩
  rw [hcode] at hdisc
  -- `m'` is the mode after the operation
  rcases disciplined_cons hdisc with ⟨hthrow, m', hnext, hrest⟩
  unfold Database.runInstr at h
  cases hop : i.op with
  | lock =>
      simp only [hop, Mode.next, Option.ite_none_right_eq_some, Option.some.injEq] at h hnext
      rcases h with ⟨hfree, rfl⟩
      rcases hnext with ⟨-, rfl⟩
      refine hs.advance (m := .held) rfl rfl hrest ?_ hs.one
      intro u mu hne hu
      -- nobody held the lock
      have hmu : mu = .free := by
        by_contra hmu
        have hown := hu.lockOwner_eq hmu
        rw [hfree] at hown
        simp at hown
      subst hmu
      intro hown
      exact hne (Option.some.inj hown).symm
  | unlock =>
      simp only [hop, Mode.next, Option.ite_none_left_eq_some, Option.some.injEq] at h hnext
      rcases hnext with ⟨hlocked, rfl⟩
      subst h
      refine hs.advance rfl (by simp [Holds]) hrest ?_ hs.one
      intro u mu hne hu
      rw [hu.eq_free (hm.lockOwner_eq hlocked) hne]
      simp [Holds]
  | beginWork =>
      simp only [hop, Mode.next, Option.ite_none_left_eq_some, Option.some.injEq] at h hnext
      rcases hnext with ⟨hlocked, rfl⟩
      have howner := hm.lockOwner_eq hlocked
      split at h
      · -- a null connection
        obtain rfl := Option.some.inj h
        exact ⟨hs.modes, hs.one⟩
      · split at h
        · -- the only transaction
          obtain rfl := Option.some.inj h
          refine hs.advance (m := .own) rfl ⟨howner, by simp⟩ hrest ?_ (by simp)
          intro u mu hne hu
          obtain rfl := hu.eq_free howner hne
          exact hu
        · -- a second transaction throws
          obtain rfl := Option.some.inj h
          exact hs.goto hm (disciplined_unwinding (hthrow (by simp [hop, Op.canThrow])))
  | prepared =>
      simp only [hop, Mode.next, Option.some.injEq] at h hnext
      subst h hnext
      exact hs.goto hm hrest
  | exec =>
      simp only [hop, Mode.next, Option.some.injEq] at h hnext
      subst h hnext
      exact hs.goto hm hrest
  | commit =>
      simp only [hop, Mode.next, Option.some.injEq] at h hnext
      subst h hnext
      exact hs.endTxn hm hrest
  | destroy =>
      simp only [hop, Mode.next, Option.some.injEq] at h hnext
      subst h hnext
      exact hs.endTxn hm hrest
  | reset =>
      simp only [hop, Mode.next, Option.ite_none_right_eq_some, Option.some.injEq] at h hnext
      rcases hnext with ⟨rfl, rfl⟩
      subst h
      exact hs.advance rfl (hm.of_subset rfl fun _ h => h) hrest
        (fun _ _ _ h => h.of_subset rfl fun _ h => h) hs.one

theorem Serialized.step {s s' : State Tid} {a : Action Tid} (hs : Serialized s)
    (h : step s a = some s') : Serialized s' := by
  cases a with
  | call t f =>
      simp only [Database.step, Option.ite_none_right_eq_some, Option.some.injEq] at h
      rcases h with ⟨⟨-, hidle⟩, rfl⟩
      rcases hs.modes t with ⟨m, hm, hdisc⟩
      rw [hidle] at hdisc
      obtain rfl : m = .free := by simpa [disciplined] using hdisc
      exact hs.goto hm (disciplined_program f)
  | run t =>
      simp only [Database.step] at h
      split at h
      · simp at h
      · next i rest hcode =>
          split at h
          · simp at h
          · exact hs.runInstr hcode h
  | throw t =>
      simp only [Database.step] at h
      split at h
      · simp at h
      · next i rest hcode =>
          simp only [Option.ite_none_right_eq_some, Option.some.injEq] at h
          rcases h with ⟨⟨-, hcan⟩, rfl⟩
          rcases hs.modes t with ⟨m, hm, hdisc⟩
          rw [hcode] at hdisc
          exact hs.goto hm (disciplined_unwinding ((disciplined_cons hdisc).1 hcan))

/-- **One transaction at a time.** In every state that the threads can reach, in
whatever order they run, at most one transaction is open on the connection, and
none when a thread is about to reset it. -/
theorem one_transaction_at_a_time {s : State Tid} (h : Machine.Reaches step .start s) :
    s.openTxns.length ≤ 1 ∧
      ∀ t i rest, s.code t = i :: rest → i.op = .reset → s.openTxns = [] := by
  have hs : Serialized s := Machine.Reaches.invariant (fun _ _ _ hs h => hs.step h) .start h
  exact ⟨hs.one, fun t i rest hcode hreset => hs.openTxns_eq_nil hcode hreset⟩

/-- Thread 1 waits with a transaction of its own while thread 2 is closing the
database. -/
def loginDuringClose : List (Action Nat) :=
  [.call 1 .userModelAuthenticate, .call 2 .closeDatabase, .run 1, .run 1, .run 1, .run 1,
    .run 2, .run 2]

theorem one_transaction_at_a_time_loginDuringClose :
    ((Machine.exec step (.start : State Nat) loginDuringClose).getD .start).openTxns = [1] ∧
      ((Machine.exec step (.start : State Nat) loginDuringClose).getD .start).openTxns.length ≤
        1 ∧
      ∀ t i rest,
        ((Machine.exec step (.start : State Nat) loginDuringClose).getD .start).code t =
          i :: rest → i.op = .reset →
        ((Machine.exec step (.start : State Nat) loginDuringClose).getD .start).openTxns = [] :=
  ⟨by decide, one_transaction_at_a_time ⟨loginDuringClose, rfl⟩⟩

end HelpCovid.Database
