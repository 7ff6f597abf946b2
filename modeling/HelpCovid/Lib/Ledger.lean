import Mathlib.Data.List.Nodup
import Mathlib.Logic.Function.Basic
import Mathlib.Logic.Relation

/-!
# Ids from a sequence

Agents of any number each take an id from one sequence, store an entry under it and
are given the entry back; on the way they may give up, before or after the entry is
stored. The order in which they act is free. No two entries are ever stored under one
id, and what is given back is stored and given back once (`Fresh`).

A machine that hands out ids shows that each of its steps is some transitions of the
ledger and has `Fresh.of_transitions`.
-/

namespace Ledger

variable {κ α : Type*}

/-- What an agent has on its way. -/
inductive Holding (α : Type*) where
  | nothing
  /-- an id for an entry that is not stored -/
  | taken (id : Nat) (entry : α)
  /-- the entry is stored and not yet given back -/
  | stored (id : Nat) (entry : α)

/-- The id that goes with it. -/
def Holding.id? : Holding α → Option Nat
  | .nothing => none
  | .taken id _ => some id
  | .stored id _ => some id

/-- The last id of the sequence, what the agents hold, and the entries that are stored
and that were given back, in order. -/
@[ext]
structure State (κ α : Type*) where
  sequence : Nat
  holding : κ → Holding α
  rows : List (Nat × α)
  given : List (Nat × α)

/-- An id that is held is in use by its agent alone. -/
def State.Good (s : State κ α) : Holding α → Prop
  | .nothing => True
  | .taken id _ => 0 < id ∧ id ≤ s.sequence ∧ id ∉ s.rows.map Prod.fst
  | .stored id entry => (id, entry) ∈ s.rows ∧ id ∉ s.given.map Prod.fst

/-- No two agents hold the same id. -/
def Apart (holding : κ → Holding α) : Prop :=
  ∀ k k' id, (holding k).id? = some id → (holding k').id? = some id → k = k'

/-- Ids are used once. -/
structure Fresh (s : State κ α) : Prop where
  good : ∀ k, s.Good (s.holding k)
  apart : Apart s.holding
  rows : ∀ row ∈ s.rows, 0 < row.1 ∧ row.1 ≤ s.sequence
  rows_nodup : (s.rows.map Prod.fst).Nodup
  given : ∀ row ∈ s.given, row ∈ s.rows
  given_nodup : (s.given.map Prod.fst).Nodup

namespace Fresh

variable {s : State κ α}

/-- An id that is held came from the sequence. -/
theorem le_sequence (h : Fresh s) {k : κ} {id : Nat} (hid : (s.holding k).id? = some id) :
    id ≤ s.sequence := by
  have hgood := h.good k
  cases hk : s.holding k with
  | nothing => simp [hk, Holding.id?] at hid
  | taken id' entry =>
      rw [hk] at hgood hid
      exact Option.some.inj hid ▸ hgood.2.1
  | stored id' entry =>
      rw [hk] at hgood hid
      exact Option.some.inj hid ▸ (h.rows _ hgood.1).2

/-- The next id of the sequence is new. -/
theorem next_notMem (h : Fresh s) : s.sequence + 1 ∉ s.rows.map Prod.fst := by
  intro hmem
  rcases List.mem_map.mp hmem with ⟨row, hrow, heq⟩
  have hle := (h.rows row hrow).2
  omega

/-- An entry that is not stored was not given back. -/
theorem notMem_given (h : Fresh s) {id : Nat} (hid : id ∉ s.rows.map Prod.fst) :
    id ∉ s.given.map Prod.fst := by
  intro hmem
  rcases List.mem_map.mp hmem with ⟨row, hrow, rfl⟩
  exact hid (List.mem_map_of_mem (h.given row hrow))

end Fresh

variable [DecidableEq κ]

/-- What can happen. -/
inductive Transition (s : State κ α) : State κ α → Prop
  | take (k : κ) (entry : α) (hk : s.holding k = .nothing) :
      Transition s { s with
        sequence := s.sequence + 1
        holding := Function.update s.holding k (.taken (s.sequence + 1) entry) }
  | store (k : κ) {id : Nat} {entry : α} (hk : s.holding k = .taken id entry) :
      Transition s { s with
        holding := Function.update s.holding k (.stored id entry)
        rows := s.rows ++ [(id, entry)] }
  | give (k : κ) {id : Nat} {entry : α} (hk : s.holding k = .stored id entry) :
      Transition s { s with
        holding := Function.update s.holding k .nothing
        given := s.given ++ [(id, entry)] }
  | drop (k : κ) : Transition s { s with holding := Function.update s.holding k .nothing }

/-- An entry that is stored, and its id given up. -/
theorem transitions_abandon {s : State κ α} {k : κ} {id : Nat} {entry : α}
    (hk : s.holding k = .taken id entry) :
    Relation.ReflTransGen Transition s { s with
      holding := Function.update s.holding k .nothing
      rows := s.rows ++ [(id, entry)] } := by
  have hsteps := (Relation.ReflTransGen.single (Transition.store k hk)).tail (.drop k)
  simpa only [Function.update_idem] using hsteps

theorem Apart.update {holding : κ → Holding α} (h : Apart holding) {k : κ} {held : Holding α}
    (hnew : ∀ k' id, k' ≠ k → held.id? = some id → (holding k').id? ≠ some id) :
    Apart (Function.update holding k held) := by
  intro i j id hi hj
  by_cases hik : i = k
  · by_cases hjk : j = k
    · exact hik.trans hjk.symm
    · rw [hik, Function.update_self] at hi
      rw [Function.update_of_ne hjk] at hj
      exact absurd hj (hnew j id hjk hi)
  · rw [Function.update_of_ne hik] at hi
    by_cases hjk : j = k
    · rw [hjk, Function.update_self] at hj
      exact absurd hi (hnew i id hik hj)
    · rw [Function.update_of_ne hjk] at hj
      exact h i j id hi hj

namespace Fresh

variable {s : State κ α}

theorem take (h : Fresh s) (k : κ) (entry : α) :
    Fresh { s with
      sequence := s.sequence + 1
      holding := Function.update s.holding k (.taken (s.sequence + 1) entry) } where
  good := by
    rw [Function.forall_update_iff _ fun _ => State.Good _]
    refine ⟨⟨Nat.succ_pos _, Nat.le_refl _, h.next_notMem⟩, fun k' _ => ?_⟩
    have hgood := h.good k'
    cases hk' : s.holding k' with
    | nothing => trivial
    | taken id entry' =>
        rw [hk'] at hgood
        exact ⟨hgood.1, Nat.le_succ_of_le hgood.2.1, hgood.2.2⟩
    | stored id entry' =>
        rw [hk'] at hgood
        exact hgood
  apart := by
    refine h.apart.update fun k' id _ hid hother => ?_
    have hle := h.le_sequence hother
    have heq : s.sequence + 1 = id := Option.some.inj hid
    omega
  rows row hrow := ⟨(h.rows row hrow).1, Nat.le_succ_of_le (h.rows row hrow).2⟩
  rows_nodup := h.rows_nodup
  given := h.given
  given_nodup := h.given_nodup

theorem store (h : Fresh s) {k : κ} {id : Nat} {entry : α} (hk : s.holding k = .taken id entry) :
    Fresh { s with
      holding := Function.update s.holding k (.stored id entry)
      rows := s.rows ++ [(id, entry)] } where
  good := by
    have hself := h.good k
    rw [hk] at hself
    rw [Function.forall_update_iff _ fun _ => State.Good _]
    refine ⟨⟨by simp, h.notMem_given hself.2.2⟩, fun k' hne => ?_⟩
    have hgood := h.good k'
    cases hk' : s.holding k' with
    | nothing => trivial
    | taken id' entry' =>
        rw [hk'] at hgood
        -- the new row is under the id of the other agent
        have hid : id' ≠ id := by
          rintro rfl
          exact hne (h.apart k' k id' (by rw [hk']; rfl) (by rw [hk]; rfl))
        refine ⟨hgood.1, hgood.2.1, ?_⟩
        rw [List.map_append, List.mem_append, not_or]
        exact ⟨hgood.2.2, by simpa using hid⟩
    | stored id' entry' =>
        rw [hk'] at hgood
        exact ⟨List.mem_append_left _ hgood.1, hgood.2⟩
  apart := by
    refine h.apart.update fun k' id' hne hid hother => ?_
    have heq : id = id' := Option.some.inj hid
    exact hne (h.apart k' k id' hother (by rw [hk, ← heq]; rfl))
  rows := by
    have hself := h.good k
    rw [hk] at hself
    intro row hrow
    rcases List.mem_append.mp hrow with hrow | hrow
    · exact h.rows row hrow
    · rw [List.mem_singleton.mp hrow]
      exact ⟨hself.1, hself.2.1⟩
  rows_nodup := by
    have hself := h.good k
    rw [hk] at hself
    rw [List.map_append]
    refine h.rows_nodup.append (List.nodup_singleton _) ?_
    simpa [List.disjoint_singleton] using hself.2.2
  given row hrow := List.mem_append_left _ (h.given row hrow)
  given_nodup := h.given_nodup

theorem give (h : Fresh s) {k : κ} {id : Nat} {entry : α} (hk : s.holding k = .stored id entry) :
    Fresh { s with
      holding := Function.update s.holding k .nothing
      given := s.given ++ [(id, entry)] } where
  good := by
    rw [Function.forall_update_iff _ fun _ => State.Good _]
    refine ⟨trivial, fun k' hne => ?_⟩
    have hgood := h.good k'
    cases hk' : s.holding k' with
    | nothing => trivial
    | taken id' entry' =>
        rw [hk'] at hgood
        exact hgood
    | stored id' entry' =>
        rw [hk'] at hgood
        have hid : id' ≠ id := by
          rintro rfl
          exact hne (h.apart k' k id' (by rw [hk']; rfl) (by rw [hk]; rfl))
        refine ⟨hgood.1, ?_⟩
        rw [List.map_append, List.mem_append, not_or]
        exact ⟨hgood.2, by simpa using hid⟩
  apart := h.apart.update fun _ _ _ hid => nomatch hid
  rows := h.rows
  rows_nodup := h.rows_nodup
  given := by
    have hself := h.good k
    rw [hk] at hself
    intro row hrow
    rcases List.mem_append.mp hrow with hrow | hrow
    · exact h.given row hrow
    · rw [List.mem_singleton.mp hrow]
      exact hself.1
  given_nodup := by
    have hself := h.good k
    rw [hk] at hself
    rw [List.map_append]
    refine h.given_nodup.append (List.nodup_singleton _) ?_
    simpa [List.disjoint_singleton] using hself.2

theorem drop (h : Fresh s) (k : κ) :
    Fresh { s with holding := Function.update s.holding k .nothing } where
  good := by
    rw [Function.forall_update_iff _ fun _ => State.Good _]
    exact ⟨trivial, fun k' _ => h.good k'⟩
  apart := h.apart.update fun _ _ _ hid => nomatch hid
  rows := h.rows
  rows_nodup := h.rows_nodup
  given := h.given
  given_nodup := h.given_nodup

theorem transition (h : Fresh s) {s' : State κ α} (hstep : Transition s s') : Fresh s' := by
  cases hstep with
  | take k entry hk => exact h.take k entry
  | store k hk => exact h.store hk
  | give k hk => exact h.give hk
  | drop k => exact h.drop k

/-- Whatever the agents do, ids are used once. -/
theorem transitions (h : Fresh s) {s' : State κ α}
    (hsteps : Relation.ReflTransGen Transition s s') : Fresh s' := by
  induction hsteps with
  | refl => exact h
  | tail _ hstep ih => exact ih.transition hstep

end Fresh

end Ledger
