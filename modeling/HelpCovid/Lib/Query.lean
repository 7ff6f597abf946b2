import Mathlib.Data.List.Sort

/-!
# Queries

`ORDER BY` and `DISTINCT ON` over lists of rows. `DISTINCT ON` keeps the first row
of each key; after an `ORDER BY` that is a row before which no other row of its
key comes.
-/

namespace Query

variable {ρ κ : Type*} [DecidableEq κ]

/-- `ORDER BY` -/
def orderBy (before : ρ → ρ → Prop) [DecidableRel before] (rows : List ρ) : List ρ :=
  rows.insertionSort before

/-- The first rows of the keys that were not seen. -/
def distinctFrom (key : ρ → κ) : (seen : List κ) → List ρ → List ρ
  | _, [] => []
  | seen, row :: rows =>
    if key row ∈ seen then distinctFrom key seen rows
    else row :: distinctFrom key (key row :: seen) rows

/-- `SELECT DISTINCT ON (key)` -/
def distinctOn (key : ρ → κ) (rows : List ρ) : List ρ := distinctFrom key [] rows

theorem mem_of_mem_distinctFrom {key : ρ → κ} {seen : List κ} {rows : List ρ} {row : ρ}
    (h : row ∈ distinctFrom key seen rows) : row ∈ rows ∧ key row ∉ seen := by
  induction rows generalizing seen with
  | nil => simp [distinctFrom] at h
  | cons r rows ih =>
    rw [distinctFrom] at h
    split at h
    · rcases ih h with ⟨hmem, hseen⟩
      exact ⟨List.mem_cons_of_mem r hmem, hseen⟩
    · next hnew =>
        rcases List.mem_cons.mp h with rfl | h
        · exact ⟨List.mem_cons_self, hnew⟩
        · rcases ih h with ⟨hmem, hseen⟩
          exact ⟨List.mem_cons_of_mem r hmem, fun hs => hseen (List.mem_cons_of_mem _ hs)⟩

/-- Every key that was not seen is there. -/
theorem exists_mem_distinctFrom {key : ρ → κ} {seen : List κ} {rows : List ρ} {row : ρ}
    (hmem : row ∈ rows) (hnew : key row ∉ seen) :
    ∃ first ∈ distinctFrom key seen rows, key first = key row := by
  induction rows generalizing seen with
  | nil => cases hmem
  | cons r rows ih =>
    rw [distinctFrom]
    rcases List.mem_cons.mp hmem with rfl | hmem
    · rw [if_neg hnew]
      exact ⟨row, List.mem_cons_self, rfl⟩
    · split
      · exact ih hmem hnew
      · by_cases hkey : key row = key r
        · exact ⟨r, List.mem_cons_self, hkey.symm⟩
        · rcases @ih (key r :: seen) hmem (by simp [hkey, hnew]) with ⟨first, hfirst, heq⟩
          exact ⟨first, List.mem_cons_of_mem r hfirst, heq⟩

/-- In an ordered list the row that is kept stands before the others of its key. -/
theorem before_of_mem_distinctFrom {key : ρ → κ} {before : ρ → ρ → Prop} {seen : List κ}
    {rows : List ρ} (hordered : rows.Pairwise before) {row : ρ}
    (h : row ∈ distinctFrom key seen rows) :
    ∀ r ∈ rows, key r = key row → r = row ∨ before row r := by
  induction rows generalizing seen with
  | nil => simp
  | cons first rows ih =>
    rcases List.pairwise_cons.mp hordered with ⟨hfirst, hrest⟩
    rw [distinctFrom] at h
    intro r hr hkey
    split at h
    · next hseen =>
        rcases List.mem_cons.mp hr with rfl | hr
        · -- a key that was seen is not kept
          exact absurd (hkey ▸ hseen) (mem_of_mem_distinctFrom h).2
        · exact ih hrest h r hr hkey
    · rcases List.mem_cons.mp h with rfl | h
      · rcases List.mem_cons.mp hr with rfl | hr
        · exact Or.inl rfl
        · exact Or.inr (hfirst r hr)
      · rcases List.mem_cons.mp hr with rfl | hr
        · exact absurd (by rw [← hkey]; exact List.mem_cons_self) (mem_of_mem_distinctFrom h).2
        · exact ih hrest h r hr hkey

variable {before : ρ → ρ → Prop} [DecidableRel before]

/-- `DISTINCT ON (key) ... ORDER BY before` keeps rows of the list, -/
theorem mem_of_mem_distinctOn {key : ρ → κ} {rows : List ρ} {row : ρ}
    (h : row ∈ distinctOn key (orderBy before rows)) : row ∈ rows :=
  (List.mem_insertionSort before).mp (mem_of_mem_distinctFrom h).1

/-- one for each key, -/
theorem exists_mem_distinctOn {key : ρ → κ} {rows : List ρ} {row : ρ} (h : row ∈ rows) :
    ∃ first ∈ distinctOn key (orderBy before rows), key first = key row :=
  exists_mem_distinctFrom ((List.mem_insertionSort before).mpr h) (List.not_mem_nil)

/-- and of a key the one that comes first in the order. -/
theorem before_of_mem_distinctOn [Std.Total before] [IsTrans ρ before] {key : ρ → κ}
    {rows : List ρ} {row : ρ} (h : row ∈ distinctOn key (orderBy before rows)) :
    ∀ r ∈ rows, key r = key row → r = row ∨ before row r := by
  intro r hr hkey
  have hordered := List.pairwise_insertionSort before rows
  exact before_of_mem_distinctFrom hordered h r ((List.mem_insertionSort before).mpr hr) hkey

end Query
