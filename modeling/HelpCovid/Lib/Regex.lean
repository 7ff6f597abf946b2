import Mathlib.Computability.RegularExpressions

/-!
# Patterns

The operators of a pattern that regular expressions do not have of their own:
a class of characters, an optional part and a part that occurs once or more.
-/

namespace HelpCovid.Regex

open RegularExpression

variable {α : Type*} [DecidableEq α]

/-- A class, as `[cs]`. -/
def oneOf (cs : List α) : RegularExpression α := (cs.map char).sum

/-- `P?` -/
def optional (P : RegularExpression α) : RegularExpression α := P + 1

/-- `P+` -/
def oneOrMore (P : RegularExpression α) : RegularExpression α := P * star P

theorem oneOf_rmatch_iff (cs : List α) (x : List α) :
    (oneOf cs).rmatch x ↔ ∃ c ∈ cs, x = [c] := by
  induction cs with
  | nil => simp [oneOf, zero_rmatch]
  | cons c cs ih =>
    have hcons : oneOf (c :: cs) = char c + oneOf cs := rfl
    rw [hcons, add_rmatch_iff, char_rmatch_iff, ih]
    simp

theorem optional_rmatch_iff (P : RegularExpression α) (x : List α) :
    (optional P).rmatch x ↔ P.rmatch x ∨ x = [] := by
  rw [optional, add_rmatch_iff, one_rmatch_iff]

theorem oneOrMore_rmatch_iff (P : RegularExpression α) (x : List α) :
    (oneOrMore P).rmatch x ↔ ∃ t u, x = t ++ u ∧ P.rmatch t ∧ (star P).rmatch u :=
  mul_rmatch_iff P (star P) x

/-- Any number of characters of a class. -/
theorem star_oneOf_rmatch_iff (cs : List α) (x : List α) :
    (star (oneOf cs)).rmatch x ↔ ∀ c ∈ x, c ∈ cs := by
  rw [star_rmatch_iff]
  constructor
  · rintro ⟨S, rfl, hS⟩ c hc
    rcases List.mem_flatten.mp hc with ⟨t, ht, hct⟩
    rcases (oneOf_rmatch_iff cs t).mp (hS t ht).2 with ⟨d, hd, rfl⟩
    rwa [List.mem_singleton.mp hct]
  · intro h
    refine ⟨x.map fun c => [c], (List.flatMap_singleton' x).symm, ?_⟩
    intro t ht
    rcases List.mem_map.mp ht with ⟨c, hc, rfl⟩
    exact ⟨by simp, (oneOf_rmatch_iff cs [c]).mpr ⟨c, h c hc, rfl⟩⟩

/-- A word over a class. -/
theorem oneOrMore_oneOf_rmatch_iff (cs : List α) (x : List α) :
    (oneOrMore (oneOf cs)).rmatch x ↔ x ≠ [] ∧ ∀ c ∈ x, c ∈ cs := by
  rw [oneOrMore_rmatch_iff]
  constructor
  · rintro ⟨t, u, rfl, ht, hu⟩
    rcases (oneOf_rmatch_iff cs t).mp ht with ⟨d, hd, rfl⟩
    have hrest := (star_oneOf_rmatch_iff cs u).mp hu
    simpa [hd] using hrest
  · rintro ⟨hne, hmem⟩
    rcases List.exists_cons_of_ne_nil hne with ⟨d, u, rfl⟩
    refine ⟨[d], u, rfl, (oneOf_rmatch_iff cs [d]).mpr ⟨d, hmem d (by simp), rfl⟩, ?_⟩
    exact (star_oneOf_rmatch_iff cs u).mpr fun c hc => hmem c (by simp [hc])

/-- A part repeated: the text is cut into texts of the part. -/
theorem oneOrMore_rmatch_iff_flatten {P : RegularExpression α} (hP : P.rmatch [] = false)
    (x : List α) :
    (oneOrMore P).rmatch x ↔ ∃ S : List (List α), S ≠ [] ∧ x = S.flatten ∧ ∀ t ∈ S, P.rmatch t := by
  rw [oneOrMore_rmatch_iff]
  constructor
  · rintro ⟨t, u, rfl, ht, hu⟩
    rcases (star_rmatch_iff P u).mp hu with ⟨S, rfl, hS⟩
    refine ⟨t :: S, by simp, by simp, ?_⟩
    intro s hs
    rcases List.mem_cons.mp hs with rfl | hs
    · exact ht
    · exact (hS s hs).2
  · rintro ⟨S, hne, rfl, hS⟩
    rcases List.exists_cons_of_ne_nil hne with ⟨t, S, rfl⟩
    refine ⟨t, S.flatten, by simp, hS t (by simp), (star_rmatch_iff P _).mpr ⟨S, rfl, ?_⟩⟩
    intro s hs
    have hmatch := hS s (by simp [hs])
    refine ⟨?_, hmatch⟩
    rintro rfl
    simp [hP] at hmatch

end HelpCovid.Regex
