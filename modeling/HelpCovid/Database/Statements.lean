import HelpCovid.Database.Serialization

/-!
# Statements inside their transactions

A thread executes a statement, or commits, only while the transaction that it began is
open. As a connection has one transaction at a time, no two threads of a process are
between two statements of their transactions (`executing_unique`), though a prepared
statement is executed without the lock.
-/

namespace HelpCovid.Database

/-- The operations that need an open transaction. -/
def Op.inTxn : Op → Bool
  | .exec => true
  | .commit => true
  | _ => false

/-- Whether the transaction of the thread is open after the operation. -/
def Op.leaves (inside : Bool) : Op → Bool
  | .beginWork => true
  | .commit => false
  | .destroy => false
  | _ => inside

/-- Code that needs a transaction only where one is open; what unwinding runs needs
none. -/
def bracketed : Bool → List Instr → Bool
  | _, [] => true
  | inside, i :: is =>
      (!i.op.inTxn || inside) && i.unwind.all (! ·.canThrow) && bracketed (i.op.leaves inside) is

theorem bracketed_program (f : Function) : bracketed false f.program = true := by
  cases f <;> decide

theorem bracketed_unwinding {i : Instr} (h : i.unwind.all (! ·.canThrow) = true)
    (inside : Bool) : bracketed inside i.unwinding = true := by
  unfold Instr.unwinding
  generalize i.unwind = ops at h
  induction ops generalizing inside with
  | nil => rfl
  | cons op ops ih =>
      rw [List.all_cons, Bool.and_eq_true] at h
      have hop : op.inTxn = false := by
        cases op <;> simp_all [Op.canThrow, Op.inTxn]
      rw [List.map_cons, bracketed, ih _ h.2]
      simp [hop]

theorem bracketed_cons {inside : Bool} {i : Instr} {is : List Instr}
    (h : bracketed inside (i :: is) = true) :
    (i.op.inTxn = true → inside = true) ∧ i.unwind.all (! ·.canThrow) = true ∧
      bracketed (i.op.leaves inside) is = true := by
  rw [bracketed, Bool.and_eq_true, Bool.and_eq_true] at h
  refine ⟨fun hin => ?_, h.1.2, h.2⟩
  have hinside := h.1.1
  rwa [hin, Bool.not_true, Bool.false_or] at hinside

variable {Tid : Type*}

/-- Every thread that is inside a transaction has one open. -/
def Bracketed (s : State Tid) : Prop :=
  ∀ t, ∃ inside, (inside = true → t ∈ s.openTxns) ∧ bracketed inside (s.code t) = true

theorem Bracketed.start : Bracketed (.start : State Tid) := fun _ => ⟨false, nofun, rfl⟩

theorem Bracketed.mem_openTxns {s : State Tid} (hs : Bracketed s) {t : Tid} {i : Instr}
    {rest : List Instr} (hcode : s.code t = i :: rest) (hi : i.op.inTxn = true) :
    t ∈ s.openTxns := by
  rcases hs t with ⟨inside, hopen, hbr⟩
  rw [hcode] at hbr
  exact hopen ((bracketed_cons hbr).1 hi)

/-- Two threads that are about to execute a statement or to commit are one. -/
theorem executing_unique {s : State Tid} (hs : Serialized s) (hb : Bracketed s) {t u : Tid}
    {i j : Instr} {rest rest' : List Instr} (ht : s.code t = i :: rest)
    (hu : s.code u = j :: rest') (hi : i.op.inTxn = true) (hj : j.op.inTxn = true) : t = u := by
  have hone := hs.one
  have htmem := hb.mem_openTxns ht hi
  have humem := hb.mem_openTxns hu hj
  cases hopen : s.openTxns with
  | nil =>
      rw [hopen] at htmem
      cases htmem
  | cons v vs =>
      have hvs : vs = [] := by
        rw [hopen, List.length_cons] at hone
        exact List.length_eq_zero_iff.mp (by omega)
      rw [hopen, hvs, List.mem_singleton] at htmem humem
      exact htmem.trans humem.symm

variable [DecidableEq Tid]

/-! ## What a step does -/

theorem step_call {s s' : State Tid} {t : Tid} {f : Function}
    (h : step s (.call t f) = some s') : s.code t = [] ∧ s' = s.goto t f.program := by
  rcases Option.ite_none_right_eq_some.mp h with ⟨hidle, hs⟩
  exact ⟨hidle.2, (Option.some.inj hs).symm⟩

theorem step_throw {s s' : State Tid} {t : Tid} (h : step s (.throw t) = some s') :
    ∃ i rest, s.code t = i :: rest ∧ i.op.canThrow = true ∧ s' = s.goto t i.unwinding := by
  rw [Database.step] at h
  cases hcode : s.code t with
  | nil =>
      rw [hcode] at h
      cases h
  | cons i rest =>
      rw [hcode] at h
      rcases Option.ite_none_right_eq_some.mp h with ⟨hcan, hs⟩
      exact ⟨i, rest, rfl, hcan.2, (Option.some.inj hs).symm⟩

theorem step_run {s s' : State Tid} {t : Tid} (h : step s (.run t) = some s') :
    ∃ i rest, s.code t = i :: rest ∧ runInstr s t i rest = some s' := by
  rw [Database.step] at h
  cases hcode : s.code t with
  | nil =>
      rw [hcode] at h
      cases h
  | cons i rest =>
      rw [hcode] at h
      exact ⟨i, rest, rfl, (Option.ite_none_left_eq_some.mp h).2⟩

/-- The step of one thread; the others keep their transactions. -/
theorem Bracketed.advance {s s' : State Tid} (hs : Bracketed s) {t : Tid} (inside : Bool)
    {code : List Instr} (hcode : s'.code = Function.update s.code t code)
    (hown : inside = true → t ∈ s'.openTxns) (hbr : bracketed inside code = true)
    (hothers : ∀ u, u ≠ t → u ∈ s.openTxns → u ∈ s'.openTxns) : Bracketed s' := by
  intro u
  by_cases hu : u = t
  · refine ⟨inside, hu ▸ hown, ?_⟩
    rw [hcode, hu, Function.update_self]
    exact hbr
  · rcases hs u with ⟨mine, hopen, hmine⟩
    refine ⟨mine, fun h => hothers u hu (hopen h), ?_⟩
    rw [hcode, Function.update_of_ne hu]
    exact hmine

theorem Bracketed.goto {s : State Tid} (hs : Bracketed s) {t : Tid} (inside : Bool)
    {code : List Instr} (hown : inside = true → t ∈ s.openTxns)
    (hbr : bracketed inside code = true) : Bracketed (s.goto t code) :=
  hs.advance inside rfl hown hbr fun _ _ h => h

theorem Bracketed.endTxn {s : State Tid} (hs : Bracketed s) {t : Tid} {code : List Instr}
    (hbr : bracketed false code = true) :
    Bracketed { s.goto t code with openTxns := s.openTxns.filter (· ≠ t) } := by
  refine hs.advance false rfl nofun hbr fun u hne hu => ?_
  exact List.mem_filter.mpr ⟨hu, decide_eq_true hne⟩

theorem Bracketed.runInstr {s s' : State Tid} (hs : Bracketed s) {t : Tid} {i : Instr}
    {rest : List Instr} (hcode : s.code t = i :: rest)
    (h : Database.runInstr s t i rest = some s') : Bracketed s' := by
  rcases hs t with ⟨inside, hopen, hbr⟩
  rw [hcode] at hbr
  rcases bracketed_cons hbr with ⟨-, hunwind, hrest⟩
  unfold Database.runInstr at h
  cases hop : i.op with
  | lock =>
      simp only [hop, Op.leaves, Option.ite_none_right_eq_some, Option.some.injEq] at h hrest
      rcases h with ⟨-, rfl⟩
      exact hs.advance inside rfl hopen hrest fun _ _ h => h
  | unlock =>
      simp only [hop, Op.leaves, Option.some.injEq] at h hrest
      subst h
      exact hs.advance inside rfl hopen hrest fun _ _ h => h
  | beginWork =>
      simp only [hop, Op.leaves] at h hrest
      split at h
      · obtain rfl := Option.some.inj h
        exact hs
      · split at h
        · next hnone =>
            obtain rfl := Option.some.inj h
            refine hs.advance true rfl (fun _ => List.mem_singleton_self t) hrest fun u _ hu => ?_
            rw [hnone] at hu
            cases hu
        · obtain rfl := Option.some.inj h
          exact hs.goto false nofun (bracketed_unwinding hunwind false)
  | prepared =>
      simp only [hop, Op.leaves, Option.some.injEq] at h hrest
      exact h ▸ hs.goto inside hopen hrest
  | exec =>
      simp only [hop, Op.leaves, Option.some.injEq] at h hrest
      exact h ▸ hs.goto inside hopen hrest
  | commit =>
      simp only [hop, Op.leaves, Option.some.injEq] at h hrest
      exact h ▸ hs.endTxn hrest
  | destroy =>
      simp only [hop, Op.leaves, Option.some.injEq] at h hrest
      exact h ▸ hs.endTxn hrest
  | reset =>
      simp only [hop, Op.leaves, Option.some.injEq] at h hrest
      subst h
      exact hs.advance inside rfl hopen hrest fun _ _ h => h

theorem Bracketed.step {s s' : State Tid} {a : Action Tid} (hs : Bracketed s)
    (h : step s a = some s') : Bracketed s' := by
  cases a with
  | call t f =>
      rcases step_call h with ⟨-, rfl⟩
      exact hs.goto false nofun (bracketed_program f)
  | run t =>
      rcases step_run h with ⟨i, rest, hcode, hrun⟩
      exact hs.runInstr hcode hrun
  | throw t =>
      rcases step_throw h with ⟨i, rest, hcode, -, rfl⟩
      rcases hs t with ⟨inside, hopen, hbr⟩
      rw [hcode] at hbr
      exact hs.goto inside hopen (bracketed_unwinding (bracketed_cons hbr).2.1 inside)

end HelpCovid.Database
