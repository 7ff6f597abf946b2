import Mathlib.Data.Int.Log
import Mathlib.Data.Rat.Floor
import Mathlib.Tactic.Linarith
import Mathlib.Tactic.Positivity
import Mathlib.Tactic.Ring

/-!
# Doubles

A finite `double` is a rational number that rounding leaves as it is. An operation on
doubles is the one on rational numbers, rounded to the nearest double and in a tie to
the even one, as IEEE 754 has it. Numbers that are too large for a finite double are
left out: the exponents have no upper bound.

`lt_floor_nearest_iff` says for which numbers rounding passes the next integer, so that
to truncate a product is not to truncate it exactly.
-/

/-- The nearest integer, of two the even one. -/
def roundEven (x : ℚ) : ℤ :=
  if Int.fract x < 1 / 2 then ⌊x⌋
  else if 1 / 2 < Int.fract x then ⌊x⌋ + 1
  else if ⌊x⌋ % 2 = 0 then ⌊x⌋ else ⌊x⌋ + 1

/-- The nearest integer is at most one half away. -/
theorem abs_sub_roundEven_le (x : ℚ) : |x - roundEven x| ≤ 1 / 2 := by
  have hsplit : x = ⌊x⌋ + Int.fract x := (Int.floor_add_fract x).symm
  have hlow := Int.fract_nonneg x
  have hhigh := Int.fract_lt_one x
  rw [abs_le]
  unfold roundEven
  split_ifs
  all_goals push_cast; constructor <;> linarith

/-- An integer that is nearer than one half is the nearest. -/
theorem roundEven_eq_of_abs_lt {x : ℚ} {n : ℤ} (h : |x - n| < 1 / 2) : roundEven x = n := by
  have hnear := abs_sub_roundEven_le x
  rw [abs_lt] at h
  rw [abs_le] at hnear
  have hlow : (roundEven x : ℚ) < n + 1 := by linarith
  have hhigh : (n : ℚ) < roundEven x + 1 := by linarith
  have hlow' : roundEven x < n + 1 := by exact_mod_cast hlow
  have hhigh' : n < roundEven x + 1 := by exact_mod_cast hhigh
  omega

@[simp] theorem roundEven_intCast (n : ℤ) : roundEven n = n :=
  roundEven_eq_of_abs_lt (by simp)

/-- What is no more than one half below an even integer is rounded up to it. -/
theorem roundEven_of_below {x : ℚ} {n : ℤ} (hle : x ≤ n) (h : n - x ≤ 1 / 2)
    (heven : n % 2 = 0) : roundEven x = n := by
  rcases lt_or_eq_of_le h with hlt | heq
  · refine roundEven_eq_of_abs_lt (abs_lt.mpr ?_)
    constructor <;> linarith
  · have hfloor : ⌊x⌋ = n - 1 := by
      rw [Int.floor_eq_iff]
      push_cast
      constructor <;> linarith
    have hfract : Int.fract x = 1 / 2 := by
      rw [Int.fract, hfloor]
      push_cast
      linarith
    unfold roundEven
    rw [hfract, hfloor, if_neg (lt_irrefl _), if_neg (lt_irrefl _), if_neg (by omega)]
    omega

namespace Binary64

/-- The exponent of the unit in the last place. -/
def exponent (x : ℚ) : ℤ := max (Int.log 2 |x| - 52) (-1074)

/-- The unit in the last place. -/
def ulp (x : ℚ) : ℚ := 2 ^ exponent x

/-- The nearest double. -/
def nearest (x : ℚ) : ℚ := roundEven (x / ulp x) * ulp x

theorem ulp_pos (x : ℚ) : 0 < ulp x := zpow_pos (by norm_num) _

/-- Rounding moves a number by half a unit in the last place at most. -/
theorem abs_sub_nearest_le (x : ℚ) : |x - nearest x| ≤ ulp x / 2 := by
  have hpos := ulp_pos x
  have hscaled : x - nearest x = (x / ulp x - roundEven (x / ulp x)) * ulp x := by
    rw [nearest, sub_mul, div_mul_cancel₀ _ hpos.ne']
  have hnear := abs_sub_roundEven_le (x / ulp x)
  rw [hscaled, abs_mul, abs_of_pos hpos]
  calc |x / ulp x - roundEven (x / ulp x)| * ulp x ≤ 1 / 2 * ulp x := by gcongr
    _ = ulp x / 2 := by ring

theorem nearest_nonneg {x : ℚ} (hx : 0 ≤ x) : 0 ≤ nearest x := by
  have hnear := abs_le.mp (abs_sub_roundEven_le (x / ulp x))
  have hscaled : 0 ≤ x / ulp x := div_nonneg hx (ulp_pos x).le
  have hlow : (-1 : ℚ) < roundEven (x / ulp x) := by linarith
  have hlow' : 0 ≤ roundEven (x / ulp x) := by
    have : (-1 : ℤ) < roundEven (x / ulp x) := by exact_mod_cast hlow
    omega
  exact mul_nonneg (by exact_mod_cast hlow') (ulp_pos x).le

theorem exponent_le {x : ℚ} (hx : x ≠ 0) {e : ℤ} (h : |x| < 2 ^ (e + 53)) (he : -1074 ≤ e) :
    exponent x ≤ e := by
  have hlog : Int.log 2 |x| < e + 53 :=
    (Int.lt_zpow_iff_log_lt (by decide) (abs_pos.mpr hx)).mp (by exact_mod_cast h)
  rw [exponent]
  omega

/-- The unit of a number that is not too large. -/
theorem ulp_le {x : ℚ} (hx : x ≠ 0) {e : ℤ} (h : |x| < 2 ^ (e + 53)) (he : -1074 ≤ e) :
    ulp x ≤ 2 ^ e :=
  zpow_le_zpow_right₀ (by norm_num) (exponent_le hx h he)

/-- A number that is not too small is a unit at least. -/
theorem ulp_le_self {x : ℚ} (h : 2 ^ (-1022 : ℤ) ≤ x) : ulp x ≤ x := by
  have hpos : 0 < x := lt_of_lt_of_le (zpow_pos (by norm_num) _) h
  have hlog : -1022 ≤ Int.log 2 |x| := by
    rw [abs_of_pos hpos]
    exact (Int.zpow_le_iff_le_log (by decide) hpos).mp (by exact_mod_cast h)
  have hself : (2 : ℚ) ^ Int.log 2 |x| ≤ x := by
    rw [abs_of_pos hpos]
    exact_mod_cast Int.zpow_log_le_self (by decide) hpos
  refine le_trans (zpow_le_zpow_right₀ (by norm_num) ?_) hself
  rw [exponent]
  omega

/-- It is not rounded to less than its half. -/
theorem half_le_nearest {x : ℚ} (h : 2 ^ (-1022 : ℤ) ≤ x) : x / 2 ≤ nearest x := by
  have hnear := abs_le.mp (abs_sub_nearest_le x)
  have hulp := ulp_le_self h
  linarith

/-! ## The numbers that are left as they are -/

/-- A whole number of units is left. -/
theorem nearest_of_units {x : ℚ} {n : ℤ} (h : x = n * ulp x) : nearest x = x := by
  have hscaled : x / ulp x = n := (eq_div_iff (ulp_pos x).ne').mpr h.symm |>.symm
  rw [nearest, hscaled, roundEven_intCast]
  exact h.symm

@[simp] theorem nearest_zero : nearest 0 = 0 := @nearest_of_units 0 0 (by simp)

/-- A number of fewer than 54 bits is left. -/
theorem nearest_of_lt {x : ℚ} {m e : ℤ} (h : x = m * 2 ^ e) (hm : |m| < 2 ^ 53)
    (he : -1074 ≤ e) : nearest x = x := by
  rcases eq_or_ne x 0 with rfl | hx
  · exact nearest_zero
  have hpos : (0 : ℚ) < 2 ^ e := zpow_pos (by norm_num) _
  have hbound : |x| < 2 ^ (e + 53) := by
    have hm' : ((|m| : ℤ) : ℚ) < 2 ^ (53 : ℤ) := by exact_mod_cast hm
    rw [h, abs_mul, abs_of_pos hpos, ← Int.cast_abs, zpow_add₀ (by norm_num), mul_comm (2 ^ e : ℚ)]
    exact mul_lt_mul_of_pos_right hm' hpos
  have hle := exponent_le hx hbound he
  refine @nearest_of_units x (m * 2 ^ (e - exponent x).toNat) ?_
  -- the units are finer than the last bit
  have hsplit : (2 : ℚ) ^ e = 2 ^ (e - exponent x).toNat * 2 ^ exponent x := by
    rw [← zpow_natCast, Int.toNat_of_nonneg (by omega), ← zpow_add₀ (by norm_num), sub_add_cancel]
  rw [ulp, Int.cast_mul, Int.cast_pow, Int.cast_ofNat, mul_assoc, ← hsplit]
  exact h

/-- A number of 53 bits, and a power of two, is left. -/
theorem nearest_of_le {x : ℚ} {m e : ℤ} (h : x = m * 2 ^ e) (hm : |m| ≤ 2 ^ 53)
    (he : -1074 ≤ e) : nearest x = x := by
  rcases lt_or_eq_of_le hm with hlt | heq
  · exact nearest_of_lt h hlt he
  · -- half as many of twice the unit
    have hhalf : m = 2 * (m / 2) ∧ |m / 2| < 2 ^ 53 := by
      rcases (abs_eq (by norm_num)).mp heq with rfl | rfl <;> decide
    refine @nearest_of_lt x (m / 2) (e + 1) ?_ hhalf.2 (by omega)
    rw [h, zpow_add_one₀ (by norm_num)]
    conv_lhs => rw [hhalf.1]
    push_cast
    ring

/-- Integers up to `2 ^ 53` are doubles. -/
theorem nearest_intCast {n : ℤ} (h : |n| ≤ 2 ^ 53) : nearest n = n :=
  nearest_of_le (m := n) (e := 0) (by simp) h (by decide)

/-- What was rounded is left. -/
theorem nearest_nearest (x : ℚ) : nearest (nearest x) = nearest x := by
  rcases eq_or_ne x 0 with rfl | hx
  · rw [nearest_zero, nearest_zero]
  refine nearest_of_le (m := roundEven (x / ulp x)) (e := exponent x) rfl ?_ (le_max_right _ _)
  have hscaled : |x / ulp x| < 2 ^ 53 := by
    have hlog : |x| < 2 ^ (Int.log 2 |x| + 1) := by
      exact_mod_cast Int.lt_zpow_succ_log_self (b := 2) (by decide) |x|
    rw [abs_div, abs_of_pos (ulp_pos x), div_lt_iff₀ (ulp_pos x), ulp,
      ← zpow_natCast, ← zpow_add₀ (by norm_num)]
    refine lt_of_lt_of_le hlog (zpow_le_zpow_right₀ (by norm_num) ?_)
    rw [exponent]
    push_cast
    omega
  have hnear := abs_le.mp (abs_sub_roundEven_le (x / ulp x))
  rw [abs_lt] at hscaled
  have hlow : (-(2 ^ 53) : ℚ) - 1 < roundEven (x / ulp x) := by linarith
  have hhigh : (roundEven (x / ulp x) : ℚ) < 2 ^ 53 + 1 := by linarith
  have hlow' : -(2 ^ 53) - 1 < roundEven (x / ulp x) := by exact_mod_cast hlow
  have hhigh' : roundEven (x / ulp x) < 2 ^ 53 + 1 := by exact_mod_cast hhigh
  rw [abs_le]
  omega

end Binary64

/-- A finite `double`. -/
structure Binary64 where
  val : ℚ
  nearest_val : Binary64.nearest val = val
deriving DecidableEq, Repr

namespace Binary64

/-- The double that a number is rounded to: a literal, an integer, or what an operation
comes to. -/
def ofRat (x : ℚ) : Binary64 := ⟨nearest x, nearest_nearest x⟩

instance (n : Nat) : OfNat Binary64 n := ⟨ofRat n⟩

instance : Add Binary64 := ⟨fun x y => ofRat (x.val + y.val)⟩

instance : Mul Binary64 := ⟨fun x y => ofRat (x.val * y.val)⟩

theorem val_add (x y : Binary64) : (x + y).val = nearest (x.val + y.val) := rfl

theorem val_mul (x y : Binary64) : (x * y).val = nearest (x.val * y.val) := rfl

/-! ## Truncation -/

/-- The whole part of a multiple of `2 ^ (-k)` is left out: what remains is below one by
as much at least. -/
theorem fract_le {x : ℚ} {n : ℤ} {k : ℕ} (h : x * 2 ^ k = n) :
    Int.fract x ≤ 1 - 1 / 2 ^ k := by
  have hpos : (0 : ℚ) < 2 ^ k := by positivity
  have hfract : Int.fract x * 2 ^ k = ((n - ⌊x⌋ * 2 ^ k : ℤ) : ℚ) := by
    rw [Int.fract, sub_mul, h]
    push_cast
    rfl
  have hlt : Int.fract x * 2 ^ k < 2 ^ k := by
    have := mul_lt_mul_of_pos_right (Int.fract_lt_one x) hpos
    rwa [one_mul] at this
  -- an integer below another
  have hle : Int.fract x * 2 ^ k ≤ 2 ^ k - 1 := by
    rw [hfract] at hlt ⊢
    have hint : n - ⌊x⌋ * 2 ^ k < 2 ^ k := by exact_mod_cast hlt
    have hint' : n - ⌊x⌋ * 2 ^ k ≤ 2 ^ k - 1 := by omega
    exact_mod_cast hint'
  rw [le_sub_iff_add_le, ← mul_le_mul_iff_of_pos_right hpos, add_mul, one_div,
    inv_mul_cancel₀ hpos.ne', one_mul]
  linarith

/-- The fraction of a double has 53 bits at most. -/
theorem fract_val_le (x : Binary64) (hx : 0 ≤ x.val) : Int.fract x.val ≤ 1 - 1 / 2 ^ 53 := by
  rcases lt_or_ge x.val (1 / 2) with hsmall | hlarge
  · have hfract : Int.fract x.val ≤ x.val := by
      rw [Int.fract, sub_le_self_iff]
      exact_mod_cast Int.floor_nonneg.mpr hx
    refine hfract.trans (hsmall.le.trans ?_)
    norm_num
  · have hlog : -1 ≤ Int.log 2 |x.val| := by
      rw [abs_of_nonneg hx]
      refine (Int.zpow_le_iff_le_log (by decide) (by linarith)).mp (le_trans ?_ hlarge)
      norm_num
    have hexp : -53 ≤ exponent x.val := by
      rw [exponent]
      omega
    refine @fract_le x.val
      (roundEven (x.val / ulp x.val) * 2 ^ (exponent x.val + 53).toNat) 53 ?_
    conv_lhs => rw [← x.nearest_val]
    rw [nearest, ulp]
    push_cast
    rw [mul_assoc, ← zpow_natCast, ← zpow_natCast, ← zpow_add₀ (by norm_num),
      Int.toNat_of_nonneg (by omega)]
    rfl

/-- Rounding passes the next integer when that is above the number by no more than half a
unit in the last place. -/
theorem lt_floor_nearest_iff {x : ℚ} (hx : 0 ≤ x) (hlarge : x < 2 ^ 52) :
    x < ⌊nearest x⌋ ↔ x < ⌈x⌉ ∧ ⌈x⌉ - x ≤ ulp x / 2 := by
  have hceil : ⌈x⌉ ≤ 2 ^ 52 := by
    rw [Int.ceil_le]
    exact_mod_cast hlarge.le
  have hnonneg : 0 ≤ ⌈x⌉ := Int.ceil_nonneg hx
  constructor
  · intro h
    have hle : ⌈x⌉ ≤ ⌊nearest x⌋ := Int.ceil_le.mpr h.le
    have hle' : (⌈x⌉ : ℚ) ≤ nearest x := Int.le_floor.mp hle
    refine ⟨lt_of_le_of_ne (Int.le_ceil x) fun heq => ?_, ?_⟩
    · -- an integer is not rounded
      have hint : nearest x = x := by
        rw [heq]
        exact nearest_intCast (by rw [abs_of_nonneg hnonneg]; omega)
      rw [hint, heq, Int.floor_intCast] at h
      exact absurd h (lt_irrefl _)
    · have hnear := abs_le.mp (abs_sub_nearest_le x)
      linarith
  · rintro ⟨hlt, hgap⟩
    have hpos : 0 < x := by
      rcases hx.lt_or_eq with hpos | rfl
      · exact hpos
      · simp at hlt
    have hexp : exponent x ≤ -1 := exponent_le hpos.ne'
      (by rw [abs_of_pos hpos]; exact_mod_cast hlarge) (by decide)
    -- an even number of units makes the next integer
    have hunits : (⌈x⌉ : ℚ) = ((⌈x⌉ * 2 ^ (-exponent x).toNat : ℤ) : ℚ) * ulp x := by
      rw [ulp]
      push_cast
      rw [mul_assoc, ← zpow_natCast, Int.toNat_of_nonneg (by omega), ← zpow_add₀ (by norm_num),
        neg_add_cancel, zpow_zero, mul_one]
    have heven : ⌈x⌉ * 2 ^ (-exponent x).toNat % 2 = 0 := by
      rcases Nat.exists_eq_succ_of_ne_zero (by omega : (-exponent x).toNat ≠ 0) with ⟨k, hk⟩
      rw [hk, pow_succ, ← mul_assoc, Int.mul_emod_left]
    generalize ⌈x⌉ * 2 ^ (-exponent x).toNat = n at hunits heven
    have hnearest : roundEven (x / ulp x) = n := by
      refine roundEven_of_below ?_ ?_ heven
      · rw [div_le_iff₀ (ulp_pos x), ← hunits]
        exact hlt.le
      · rw [sub_le_iff_le_add, ← mul_le_mul_iff_of_pos_right (ulp_pos x), ← hunits, add_mul,
          div_mul_cancel₀ _ (ulp_pos x).ne']
        linarith
    rw [nearest, hnearest, ← hunits, Int.floor_intCast]
    exact hlt

end Binary64
