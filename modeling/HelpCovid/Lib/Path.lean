import HelpCovid.Lib.CText

/-!
# Lexical resolution of paths

A path is resolved component by component: `.` stays, `..` goes up (and stays at
the root), any other name goes down. The file has the rule that bounds where a
path can lead: counting levels as one goes, a path that never goes up from level
zero leads from any directory to one below it, at every one of its components
(`climb_isSome_iff`). Links are not resolved.
-/

namespace Path

open CText

def dot : Text := ['.']

def dotDot : Text := ['.', '.']

/-- The components of a path: what stands between its slashes. -/
def components (s : Text) : List Text := (s.splitOnP (· == '/')).filter fun c => !c.isEmpty

/-- The directory reached from a directory by a component; the root is its own parent. -/
def enter (dir : List Text) (c : Text) : List Text :=
  if c = dot then dir else if c = dotDot then dir.dropLast else dir ++ [c]

/-- Where components lead. -/
def resolve (dir cs : List Text) : List Text := cs.foldl enter dir

/-- The level the components lead to, `none` once they go up from level zero. -/
def climb : Nat → List Text → Option Nat
  | level, [] => some level
  | level, c :: cs =>
      if c = dot then climb level cs
      else if c = dotDot then
        if level = 0 then none else climb (level - 1) cs
      else climb (level + 1) cs

/-! ## Components -/

@[simp] theorem components_nil : components [] = [] := rfl

/-- A slash ends a component. -/
theorem components_append_slash (a b : Text) :
    components (a ++ '/' :: b) = components a ++ components b := by
  rw [components, List.splitOnP_append_cons a b (by rfl), List.filter_append, components,
    components]

@[simp] theorem components_slash (s : Text) : components ('/' :: s) = components s :=
  components_append_slash [] s

theorem components_of_notMem {c : Text} (hne : c ≠ []) (h : '/' ∉ c) : components c = [c] := by
  have hnone : ∀ x ∈ c, (x == '/') = false := by
    intro x hx
    simpa using fun heq : x = '/' => h (heq ▸ hx)
  rw [components, List.splitOnP_eq_singleton hnone]
  simp [hne]

/-- The text after the last slash. -/
theorem exists_last_slash (s : Text) : '/' ∉ s ∨ ∃ a w, s = a ++ '/' :: w ∧ '/' ∉ w := by
  induction s with
  | nil => simp
  | cons c s ih =>
      rcases ih with hnot | ⟨a, w, rfl, hw⟩
      · by_cases hc : c = '/'
        · exact Or.inr ⟨[], s, by rw [hc]; rfl, hnot⟩
        · left
          simp [hnot, Ne.symm hc]
      · exact Or.inr ⟨c :: a, w, rfl, hw⟩

/-- A text cut short has the first components of the whole, and perhaps one more. -/
theorem components_of_prefix {t s : Text} (h : t <+: s) :
    ∃ front last, components t = front ++ last ∧ front <+: components s ∧ last.length ≤ 1 := by
  have hlast : ∀ w : Text, '/' ∉ w → (components w).length ≤ 1 := by
    intro w hw
    by_cases hne : w = []
    · simp [hne]
    · simp [components_of_notMem hne hw]
  rcases h with ⟨u, rfl⟩
  rcases exists_last_slash t with hnot | ⟨a, w, rfl, hw⟩
  · exact ⟨[], components t, rfl, List.nil_prefix, hlast t hnot⟩
  · refine ⟨components a, components w, components_append_slash a w, ?_, hlast w hw⟩
    rw [List.append_assoc, List.cons_append, components_append_slash]
    exact List.prefix_append _ _

/-! ## Levels -/

@[simp] theorem resolve_append (dir a b : List Text) :
    resolve dir (a ++ b) = resolve (resolve dir a) b := List.foldl_append

theorem climb_append (level : Nat) (a b : List Text) :
    climb level (a ++ b) = (climb level a).bind fun level => climb level b := by
  induction a generalizing level with
  | nil => rfl
  | cons c a ih =>
      simp only [List.cons_append, climb]
      split
      · exact ih level
      · split
        · split
          · rfl
          · exact ih (level - 1)
        · exact ih (level + 1)

/-- The level counts how far below the directory the components lead. -/
theorem resolve_of_climb {level level' : Nat} {cs : List Text} (h : climb level cs = some level')
    (dir : List Text) {below : List Text} (hbelow : below.length = level) :
    ∃ below', resolve (dir ++ below) cs = dir ++ below' ∧ below'.length = level' := by
  induction cs generalizing level below with
  | nil =>
      simp only [climb, Option.some.injEq] at h
      exact ⟨below, rfl, hbelow.trans h⟩
  | cons c cs ih =>
      simp only [climb] at h
      simp only [resolve, List.foldl_cons, enter]
      split at h
      · next hdot =>
          rw [if_pos hdot]
          exact ih h hbelow
      · next hdot =>
          rw [if_neg hdot]
          split at h
          · next hdotdot =>
              rw [if_pos hdotdot]
              split at h
              · cases h
              · next hlevel =>
                  have hne : below ≠ [] := by
                    intro hnil
                    rw [hnil] at hbelow
                    exact hlevel hbelow.symm
                  rw [List.dropLast_append_of_ne_nil hne]
                  refine ih h ?_
                  rw [List.length_dropLast, hbelow]
          · next hdotdot =>
              rw [if_neg hdotdot, List.append_assoc]
              refine ih h ?_
              rw [List.length_append, hbelow]
              rfl

theorem isSome_climb_of_append {level : Nat} {a b : List Text}
    (h : (climb level (a ++ b)).isSome = true) : (climb level a).isSome = true := by
  rw [climb_append] at h
  cases ha : climb level a with
  | none => simp [ha] at h
  | some level' => rfl

theorem below_of_climb {cs : List Text} (h : (climb 0 cs).isSome = true) (dir : List Text) :
    dir <+: resolve dir cs := by
  rcases Option.isSome_iff_exists.mp h with ⟨level, hlevel⟩
  rcases @resolve_of_climb _ _ _ hlevel dir [] rfl with ⟨below, hresolve, -⟩
  rw [List.append_nil] at hresolve
  exact ⟨below, hresolve.symm⟩

/-- The first component at which the level would go below zero leads above the directory. -/
theorem exists_above_of_climb {cs : List Text} (h : climb 0 cs = none) {dir : List Text}
    (hdir : dir ≠ []) : ∃ n, ¬ dir <+: resolve dir (cs.take n) := by
  induction cs using List.reverseRecOn with
  | nil => simp [climb] at h
  | append_singleton cs c ih =>
      rw [climb_append] at h
      cases hcs : climb 0 cs with
      | none =>
          rcases ih hcs with ⟨n, hn⟩
          refine ⟨min n cs.length, ?_⟩
          rw [List.take_append_of_le_length (Nat.min_le_right _ _)]
          rwa [← List.take_take, List.take_length]
      | some level =>
          rw [hcs, Option.bind_some] at h
          simp only [climb] at h
          split at h
          · cases h
          · split at h
            · next hdotdot =>
                split at h
                · next hzero =>
                    rcases @resolve_of_climb _ _ _ hcs dir [] rfl with ⟨below, hres, hlen⟩
                    have hnil : below = [] := List.eq_nil_of_length_eq_zero (hlen.trans hzero)
                    rw [List.append_nil, hnil, List.append_nil] at hres
                    refine ⟨cs.length + 1, ?_⟩
                    rw [List.take_of_length_le (by simp), resolve_append, hres, hdotdot]
                    intro hprefix
                    -- the parent of the directory is shorter than the directory
                    have hle := hprefix.length_le
                    have hpos := List.length_pos_of_ne_nil hdir
                    simp only [resolve, List.foldl_cons, List.foldl_nil, enter, dot, dotDot] at hle
                    simp at hle
                    omega
                · cases h
            · cases h

/-- Components keep their level if and only if none of them leads out of the
directory they start from. -/
theorem climb_isSome_iff {cs dir : List Text} (hdir : dir ≠ []) :
    (climb 0 cs).isSome = true ↔ ∀ n, dir <+: resolve dir (cs.take n) := by
  constructor
  · intro h n
    refine below_of_climb (isSome_climb_of_append (b := cs.drop n) ?_) dir
    rwa [List.take_append_drop]
  · intro h
    cases hcs : climb 0 cs with
    | some level => rfl
    | none =>
        rcases exists_above_of_climb hcs hdir with ⟨n, hn⟩
        exact absurd (h n) hn

end Path
