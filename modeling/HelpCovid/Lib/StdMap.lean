import Mathlib.Order.Compare
import Mathlib.Order.Basic
import Mathlib.Order.Lattice
import Mathlib.Data.List.Lex

/-!
# The ordered associative container of C++

`std::map` keeps its bindings sorted by key and is determined by them, which is
what the extensional tree map of Lean's library provides. `insert` of the C++
container does nothing on a key that is present: it is `insertIfNew`. The file
adds `begin()`, the binding of the least key, and states both through lookups.
-/

/-- `std::map<κ, ν>`. -/
abbrev StdMap (κ : Type*) (ν : Type*) [Ord κ] := Std.ExtTreeMap κ ν compare

namespace StdMap

instance transCmp {κ : Type*} [LinearOrder κ] : Std.TransCmp (compare : κ → κ → Ordering) :=
  Std.LawfulBCmp.toTransCmp

section InsertAll

variable {κ ν : Type*} [Ord κ] [Std.TransOrd κ]

/-- A sequence of insertions: the first binding of a key stays. -/
def insertAll (m : StdMap κ ν) (l : List (κ × ν)) : StdMap κ ν :=
  l.foldl (fun m e => m.insertIfNew e.1 e.2) m

@[simp] theorem insertAll_nil (m : StdMap κ ν) : insertAll m [] = m := rfl

@[simp] theorem insertAll_cons (m : StdMap κ ν) (e : κ × ν) (l : List (κ × ν)) :
    insertAll m (e :: l) = insertAll (m.insertIfNew e.1 e.2) l := rfl

theorem insertAll_append (m : StdMap κ ν) (l l' : List (κ × ν)) :
    insertAll m (l ++ l') = insertAll (insertAll m l) l' := List.foldl_append

end InsertAll

section Merge

variable {κ ν : Type*} [Ord κ] [Std.TransOrd κ]

/-- `merge`: the bindings of `m'` for the keys `m` does not bind are added. -/
def merge (m m' : StdMap κ ν) : StdMap κ ν := m' ∪ m

theorem getElem?_merge (m m' : StdMap κ ν) (k : κ) : (merge m m')[k]? = m[k]?.or m'[k]? :=
  Std.ExtTreeMap.getElem?_union

end Merge

section Lookup

variable {κ ν : Type*} [Ord κ] [Std.TransOrd κ] [Std.LawfulEqOrd κ]

/-- `insert` keeps the binding of a key that is present. -/
theorem getElem?_insertIfNew_self (m : StdMap κ ν) (k : κ) (v : ν) :
    (m.insertIfNew k v)[k]? = some (m[k]?.getD v) := by
  rw [Std.ExtTreeMap.getElem?_insertIfNew]
  by_cases hk : k ∈ m
  · simp [hk]
  · simp [hk]

/-- `insert` leaves the other keys alone. -/
theorem getElem?_insertIfNew_of_ne (m : StdMap κ ν) {k a : κ} (v : ν) (h : a ≠ k) :
    (m.insertIfNew k v)[a]? = m[a]? := by
  rw [Std.ExtTreeMap.getElem?_insertIfNew, if_neg]
  intro hk
  exact h (Std.LawfulEqOrd.eq_of_compare hk.1).symm

/-- `insert` of a key that is present changes nothing. -/
theorem insertIfNew_of_mem (m : StdMap κ ν) {k : κ} (v : ν) (h : k ∈ m) :
    m.insertIfNew k v = m := by
  apply Std.ExtTreeMap.ext_getElem?
  intro a
  by_cases ha : a = k
  · subst ha
    rcases Option.isSome_iff_exists.mp (Std.ExtTreeMap.mem_iff_isSome_getElem?.mp h) with ⟨w, hw⟩
    rw [getElem?_insertIfNew_self, hw, Option.getD_some]
  · exact getElem?_insertIfNew_of_ne m v ha

theorem mem_insertIfNew_iff (m : StdMap κ ν) {k a : κ} (v : ν) :
    a ∈ m.insertIfNew k v ↔ a = k ∨ a ∈ m := by
  rw [Std.ExtTreeMap.mem_insertIfNew, Std.LawfulEqOrd.compare_eq_iff_eq, eq_comm]

theorem mem_insertAll_iff (m : StdMap κ ν) (l : List (κ × ν)) {a : κ} :
    a ∈ insertAll m l ↔ a ∈ m ∨ ∃ e ∈ l, e.1 = a := by
  induction l generalizing m with
  | nil => simp
  | cons e l ih =>
      rw [insertAll_cons, ih, mem_insertIfNew_iff, List.exists_mem_cons_iff, eq_comm]
      tauto

/-- The first binding of a key is found. -/
theorem getElem?_insertAll [DecidableEq κ] (m : StdMap κ ν) (l : List (κ × ν)) (k : κ) :
    (insertAll m l)[k]? = m[k]?.or ((l.find? fun e => e.1 = k).map Prod.snd) := by
  induction l generalizing m with
  | nil => simp
  | cons e l ih =>
      rw [insertAll_cons, ih, List.find?_cons]
      by_cases hk : e.1 = k
      · subst hk
        rw [getElem?_insertIfNew_self]
        cases m[e.1]? <;> simp
      · rw [getElem?_insertIfNew_of_ne m e.2 (Ne.symm hk)]
        simp [hk]

/-- The keys that are there keep their values. -/
theorem getElem?_insertAll_of_some [DecidableEq κ] {m : StdMap κ ν} {k : κ} {v : ν}
    (l : List (κ × ν)) (h : m[k]? = some v) : (insertAll m l)[k]? = some v := by
  rw [getElem?_insertAll, h, Option.some_or]

/-- A value that is found was there or was inserted. -/
theorem some_or_mem_of_getElem?_insertAll [DecidableEq κ] {m : StdMap κ ν} {l : List (κ × ν)}
    {k : κ} {v : ν} (h : (insertAll m l)[k]? = some v) : m[k]? = some v ∨ (k, v) ∈ l := by
  rw [getElem?_insertAll, Option.or_eq_some_iff] at h
  rcases h with hfound | ⟨-, hfound⟩
  · exact Or.inl hfound
  · rcases Option.map_eq_some_iff.mp hfound with ⟨e, he, rfl⟩
    have hkey : e.1 = k := by simpa using List.find?_some he
    exact Or.inr (hkey ▸ List.mem_of_find?_eq_some he)

/-- Insertions change nothing exactly when all their keys are present. -/
theorem insertAll_eq_self_iff (m : StdMap κ ν) (l : List (κ × ν)) :
    insertAll m l = m ↔ ∀ e ∈ l, e.1 ∈ m := by
  constructor
  · intro h e he
    rw [← h]
    exact (mem_insertAll_iff m l).mpr (Or.inr ⟨e, he, rfl⟩)
  · induction l with
    | nil => simp
    | cons e l ih =>
        intro h
        rw [insertAll_cons, insertIfNew_of_mem m e.2 (h e (by simp))]
        exact ih fun e' he' => h e' (List.mem_cons_of_mem _ he')

theorem getElem?_erase_of_ne (m : StdMap κ ν) {k a : κ} (h : a ≠ k) :
    (m.erase k)[a]? = m[a]? := by
  rw [Std.ExtTreeMap.getElem?_erase, if_neg]
  intro hk
  exact h (Std.LawfulEqOrd.eq_of_compare hk).symm

@[simp] theorem merge_empty (m : StdMap κ ν) : merge m ∅ = m := by
  apply Std.ExtTreeMap.ext_getElem?
  intro k
  rw [getElem?_merge]
  simp

@[simp] theorem empty_merge (m : StdMap κ ν) : merge ∅ m = m := by
  apply Std.ExtTreeMap.ext_getElem?
  intro k
  rw [getElem?_merge]
  simp

/-- An insertion after a merge is one before it. -/
theorem insertIfNew_merge (m m' : StdMap κ ν) (k : κ) (v : ν) :
    (merge m m').insertIfNew k v = merge m (m'.insertIfNew k v) := by
  apply Std.ExtTreeMap.ext_getElem?
  intro a
  by_cases ha : a = k
  · subst ha
    rw [getElem?_insertIfNew_self, getElem?_merge, getElem?_merge, getElem?_insertIfNew_self]
    cases m[a]? <;> rfl
  · rw [getElem?_insertIfNew_of_ne _ v ha, getElem?_merge, getElem?_merge,
      getElem?_insertIfNew_of_ne _ v ha]

end Lookup

section Begin

variable {κ ν : Type*} [LinearOrder κ]

/-- `begin()`: the binding of the least key, `none` for `end()`. -/
def begin? (m : StdMap κ ν) : Option (κ × ν) := m.toList.head?

theorem begin?_eq_none_iff (m : StdMap κ ν) : m.begin? = none ↔ ∀ k, k ∉ m := by
  rw [begin?, List.head?_eq_none_iff, Std.ExtTreeMap.toList_eq_nil_iff,
    Std.ExtTreeMap.eq_empty_iff_forall_not_mem]

theorem getElem?_of_begin? {m : StdMap κ ν} {k : κ} {v : ν} (h : m.begin? = some (k, v)) :
    m[k]? = some v :=
  Std.ExtTreeMap.mem_toList_iff_getElem?_eq_some.mp (List.mem_of_head? h)

/-- `begin()` has the least key. -/
theorem begin?_le {m : StdMap κ ν} {e : κ × ν} (h : m.begin? = some e) {k : κ} (hk : k ∈ m) :
    e.1 ≤ k := by
  rcases Option.isSome_iff_exists.mp (Std.ExtTreeMap.mem_iff_isSome_getElem?.mp hk) with ⟨v, hv⟩
  have hmem : (k, v) ∈ m.toList := Std.ExtTreeMap.mem_toList_iff_getElem?_eq_some.mpr hv
  have hsorted := Std.ExtTreeMap.ordered_keys_toList (t := m)
  rcases List.head?_eq_some_iff.mp h with ⟨rest, hlist⟩
  rw [hlist] at hmem hsorted
  rcases List.mem_cons.mp hmem with heq | hrest
  · exact le_of_eq (congrArg Prod.fst heq).symm
  · have hlt := (List.pairwise_cons.mp hsorted).1 _ hrest
    exact le_of_lt (compare_lt_iff_lt.mp hlt)

end Begin

end StdMap
