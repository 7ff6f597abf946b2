import Mathlib.Tactic.Common

/-!
# Loops that may not end

A loop is a function that gives for each state the next one or a result. `run`
makes at most a number of rounds; a loop diverges from a state when no number is
enough. Where every round lowers a measure, except in states that a round leaves
as they are, a loop diverges exactly when it comes to such a state
(`diverges_iff`), and the measure says how many rounds are enough for the others.
-/

namespace Loop

/-- What one round comes to. -/
inductive Round (σ ρ : Type*) where
  | next (s : σ)
  | result (r : ρ)
deriving Repr

variable {σ ρ : Type*} (round : σ → Round σ ρ)

/-- At most `fuel` rounds. -/
def run : (fuel : Nat) → σ → Option ρ
  | 0, _ => none
  | fuel + 1, s =>
      match round s with
      | .next s => run fuel s
      | .result r => some r

/-- No number of rounds is enough. -/
def Diverges (s : σ) : Prop := ∀ fuel, run round fuel s = none

/-- The state `t` comes after some rounds from `s`. -/
inductive Leads : σ → σ → Prop
  | refl (s : σ) : Leads s s
  | next {s s' t : σ} (h : round s = .next s') (ht : Leads s' t) : Leads s t

variable {round}

theorem run_next {s s' : σ} (h : round s = .next s') (fuel : Nat) :
    run round (fuel + 1) s = run round fuel s' := by
  rw [run, h]

theorem run_result {s : σ} {r : ρ} (h : round s = .result r) (fuel : Nat) :
    run round (fuel + 1) s = some r := by
  rw [run, h]

theorem diverges_next {s s' : σ} (h : round s = .next s') :
    Diverges round s ↔ Diverges round s' := by
  constructor
  · intro hs fuel
    rw [← run_next h]
    exact hs (fuel + 1)
  · intro hs fuel
    rcases fuel with - | fuel
    · rfl
    · rw [run_next h]
      exact hs fuel

/-- A round that changes nothing is made for ever. -/
theorem diverges_of_self {s : σ} (h : round s = .next s) : Diverges round s := by
  intro fuel
  induction fuel with
  | zero => rfl
  | succ fuel ih => rw [run_next h, ih]

theorem Leads.diverges_iff {s t : σ} (h : Leads round s t) :
    Diverges round s ↔ Diverges round t := by
  induction h with
  | refl => exact Iff.rfl
  | next hround _ ih => rw [diverges_next hround, ih]

theorem Leads.trans {s t u : σ} (h : Leads round s t) (h' : Leads round t u) :
    Leads round s u := by
  induction h with
  | refl => exact h'
  | next hround _ ih => exact .next hround (ih h')

/-- What is left after some rounds has a result with fewer rounds. -/
theorem Leads.exists_run {s t : σ} (h : Leads round s t) {r : ρ}
    (ht : ∃ fuel, run round fuel t = some r) : ∃ fuel, run round fuel s = some r := by
  induction h with
  | refl => exact ht
  | next hround _ ih =>
      rcases ih ht with ⟨fuel, hfuel⟩
      exact ⟨fuel + 1, by rw [run_next hround, hfuel]⟩

theorem run_add {s : σ} {r : ρ} {fuel : Nat} (h : run round fuel s = some r) (extra : Nat) :
    run round (fuel + extra) s = some r := by
  induction fuel generalizing s with
  | zero => cases h
  | succ fuel ih =>
      rw [Nat.add_right_comm]
      cases hround : round s with
      | next s' =>
          rw [run_next hround] at h ⊢
          exact ih h
      | result r' =>
          rw [run_result hround] at h ⊢
          exact h

section Measure

variable {stuck : σ → Prop} {m : σ → Nat}
  (hstuck : ∀ s, stuck s → round s = .next s)
  (hstep : ∀ s s', ¬ stuck s → round s = .next s' → m s' < m s)

include hstep in
/-- As many rounds as the measure says lead to a result or to a stuck state. -/
theorem run_or_stuck {s : σ} {fuel : Nat} (hfuel : m s < fuel) :
    (run round fuel s).isSome = true ∨ ∃ t, Leads round s t ∧ stuck t := by
  induction fuel generalizing s with
  | zero => exact absurd hfuel (Nat.not_lt_zero _)
  | succ fuel ih =>
      by_cases hs : stuck s
      · exact Or.inr ⟨s, .refl s, hs⟩
      · cases hround : round s with
        | result r =>
            left
            rw [run_result hround]
            rfl
        | next s' =>
            have hlt := hstep s s' hs hround
            rw [run_next hround]
            rcases ih (s := s') (by omega) with hsome | ⟨t, ht, hstuck⟩
            · exact Or.inl hsome
            · exact Or.inr ⟨t, .next hround ht, hstuck⟩

include hstuck hstep in
/-- The loop diverges exactly when it comes to a stuck state. -/
theorem diverges_iff (s : σ) : Diverges round s ↔ ∃ t, Leads round s t ∧ stuck t := by
  constructor
  · intro h
    rcases run_or_stuck hstep (Nat.lt_succ_self (m s)) with hsome | hreach
    · rw [h] at hsome
      cases hsome
    · exact hreach
  · rintro ⟨t, ht, ht'⟩
    exact ht.diverges_iff.mpr (diverges_of_self (hstuck t ht'))

include hstuck hstep in
/-- One run with enough rounds tells whether the loop diverges. -/
theorem diverges_iff_run {s : σ} {fuel : Nat} (hfuel : m s < fuel) :
    Diverges round s ↔ run round fuel s = none := by
  constructor
  · intro h
    exact h fuel
  · intro h
    rcases run_or_stuck hstep hfuel with hsome | hreach
    · rw [h] at hsome
      cases hsome
    · exact (diverges_iff hstuck hstep s).mpr hreach

include hstuck hstep in
/-- Enough rounds give the result that some number of rounds gives. -/
theorem run_eq_of_exists {s : σ} {r : ρ} (h : ∃ k, run round k s = some r) {fuel : Nat}
    (hfuel : m s < fuel) : run round fuel s = some r := by
  rcases h with ⟨k, hk⟩
  cases hrun : run round fuel s with
  | none =>
      rw [← diverges_iff_run hstuck hstep hfuel] at hrun
      rw [hrun k] at hk
      cases hk
  | some r' =>
      have hlong := run_add hk fuel
      rw [Nat.add_comm, run_add hrun k] at hlong
      exact hlong

end Measure

end Loop
