import Mathlib.Order.Lattice
import Mathlib.Data.List.TakeWhile

/-!
# The ordered container of C++ with equivalent keys

`std::multimap` keeps its entries sorted by key, those of one key in the order in which
they were inserted: `emplace` puts an entry at the upper bound of its key. What a key has
been given is its `equalRange`; `equalRange_emplaceAll` says what a sequence of insertions
adds to it.
-/

/-- `std::multimap<κ, ν>`: the entries in the order of an iteration. -/
structure StdMultimap (κ ν : Type*) [LinearOrder κ] where
  entries : List (κ × ν)
  sorted : entries.Pairwise fun a b => a.1 ≤ b.1
deriving Repr, DecidableEq

namespace StdMultimap

variable {κ ν : Type*} [LinearOrder κ]

instance : EmptyCollection (StdMultimap κ ν) := ⟨⟨[], .nil⟩⟩

/-- The entries before the upper bound of a key. -/
def before (m : StdMultimap κ ν) (k : κ) : List (κ × ν) := m.entries.takeWhile (·.1 ≤ k)

/-- The entries from the upper bound of a key on. -/
def after (m : StdMultimap κ ν) (k : κ) : List (κ × ν) := m.entries.dropWhile (·.1 ≤ k)

/-- The values of a key, in the order of an iteration. -/
def equalRange (m : StdMultimap κ ν) (k : κ) : List ν := (m.entries.filter (·.1 = k)).map Prod.snd

/-- `find`: the first value of a key. -/
def find? (m : StdMultimap κ ν) (k : κ) : Option ν := (m.equalRange k).head?

theorem before_append_after (m : StdMultimap κ ν) (k : κ) : m.before k ++ m.after k = m.entries :=
  List.takeWhile_append_dropWhile

theorem le_of_mem_before {m : StdMultimap κ ν} {k : κ} {e : κ × ν} (h : e ∈ m.before k) :
    e.1 ≤ k := by
  simpa using List.mem_takeWhile_imp h

/-- From the upper bound on the keys are greater. -/
theorem lt_of_mem_after {m : StdMultimap κ ν} {k : κ} {e : κ × ν} (h : e ∈ m.after k) :
    k < e.1 := by
  have hsorted := m.sorted
  rw [← before_append_after m k, List.pairwise_append] at hsorted
  have hhead := List.head?_dropWhile_not (fun e : κ × ν => decide (e.1 ≤ k)) m.entries
  unfold after at h hsorted
  rcases hrest : m.entries.dropWhile (fun e => decide (e.1 ≤ k)) with _ | ⟨a, rest⟩
  · simp [hrest] at h
  · rw [hrest] at h hsorted hhead
    have ha : k < a.1 := by simpa using hhead
    rcases List.mem_cons.mp h with rfl | h
    · exact ha
    · exact ha.trans_le ((List.pairwise_cons.mp hsorted.2.1).1 e h)

/-- `emplace` -/
def emplace (m : StdMultimap κ ν) (k : κ) (v : ν) : StdMultimap κ ν where
  entries := m.before k ++ (k, v) :: m.after k
  sorted := by
    have hsorted := m.sorted
    rw [← before_append_after m k, List.pairwise_append] at hsorted
    refine List.pairwise_append.mpr ⟨hsorted.1, List.pairwise_cons.mpr ⟨?_, hsorted.2.1⟩, ?_⟩
    · exact fun e he => (lt_of_mem_after he).le
    · intro a ha b hb
      rcases List.mem_cons.mp hb with rfl | hb
      · exact le_of_mem_before ha
      · exact hsorted.2.2 a ha b hb

/-- A sequence of insertions. -/
def emplaceAll (m : StdMultimap κ ν) (l : List (κ × ν)) : StdMultimap κ ν :=
  l.foldl (fun m e => m.emplace e.1 e.2) m

@[simp] theorem emplaceAll_nil (m : StdMultimap κ ν) : m.emplaceAll [] = m := rfl

@[simp] theorem emplaceAll_cons (m : StdMultimap κ ν) (e : κ × ν) (l : List (κ × ν)) :
    m.emplaceAll (e :: l) = (m.emplace e.1 e.2).emplaceAll l := rfl

@[simp] theorem equalRange_empty (k : κ) : (∅ : StdMultimap κ ν).equalRange k = [] := rfl

/-- The new value is the last one of its key. -/
theorem equalRange_emplace_self (m : StdMultimap κ ν) (k : κ) (v : ν) :
    (m.emplace k v).equalRange k = m.equalRange k ++ [v] := by
  have hafter : (m.after k).filter (·.1 = k) = [] := by
    rw [List.filter_eq_nil_iff]
    intro e he
    simpa using (lt_of_mem_after he).ne'
  rw [equalRange, equalRange, ← before_append_after m k]
  simp [emplace, hafter]

theorem equalRange_emplace_of_ne (m : StdMultimap κ ν) {k a : κ} (v : ν) (h : a ≠ k) :
    (m.emplace k v).equalRange a = m.equalRange a := by
  rw [equalRange, equalRange, ← before_append_after m k]
  simp [emplace, h.symm]

/-- Insertions add to the values of a key those that are given for it, in order. -/
theorem equalRange_emplaceAll [DecidableEq κ] (m : StdMultimap κ ν) (l : List (κ × ν)) (k : κ) :
    (m.emplaceAll l).equalRange k = m.equalRange k ++ (l.filter (·.1 = k)).map Prod.snd := by
  induction l generalizing m with
  | nil => simp
  | cons e l ih =>
      rw [emplaceAll_cons, ih]
      by_cases hk : e.1 = k
      · subst hk
        simp [equalRange_emplace_self]
      · rw [equalRange_emplace_of_ne m e.2 (Ne.symm hk)]
        simp [hk]

end StdMultimap
