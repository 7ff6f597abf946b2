import HelpCovid.Lib.Decimal

/-!
# The effective user

`hcv_set_euid` takes the name of a user or a number. The parameters are
`getpwnam`, which gives the number of a user, and `seteuid(2)`, which succeeds or
not.

A number is read up to the first character that is no digit, and only its lowest
32 bits count, so that a text may select another user than the one it names.
-/

namespace HelpCovid.Startup

open CText

/-- The sites where `hcv_set_euid` gives up. -/
inductive EuidFatal where
  | invalidUserName (euidstr : Text)
  | invalidEuidstr (euidstr : Text)
  | noUser
  | seteuidFailed (neweuid : Nat)
deriving Repr, DecidableEq

/-- The call of `seteuid(2)`, if there was one, and how the function ends. -/
structure EuidCall where
  called : Option Nat
  result : Except EuidFatal Unit

/-- `atol` -/
def atol (s : Text) : Int := ((strtol s).map Prod.fst).getD 0

section Code

variable (getpwnam : Text → Option Nat) (seteuid : Nat → Bool)

/-- `neweuid`, from the digits or the name. -/
def newEuid (euidstr : Text) : Except EuidFatal Nat :=
  if euidstr.head?.any Char.isDigit then .ok (toUnsigned (atol (cstr euidstr)))
  else if euidstr.head?.any Char.isAlpha then
    match getpwnam (cstr euidstr) with
    | none => .error (.invalidUserName euidstr)
    | some pwUid => .ok pwUid
  else .error (.invalidEuidstr euidstr)

/-- `hcv_set_euid` -/
def setEuid (euidstr : Text) : EuidCall :=
  if euidstr.isEmpty || euidstr == ['-'] then ⟨none, .ok ()⟩
  else match newEuid getpwnam euidstr with
    | .error e => ⟨none, .error e⟩
    | .ok neweuid =>
      -- the sentinel is `(uid_t)-1`
      if neweuid = toUnsigned (-1) then ⟨none, .error .noUser⟩
      else if seteuid neweuid then ⟨some neweuid, .ok ()⟩
      else ⟨some neweuid, .error (.seteuidFailed neweuid)⟩

end Code

/-! ## What is asked for -/

/-- The text is entirely a decimal numeral of the number. -/
structure IsNumeral (s : Text) (n : Nat) : Prop where
  ne_nil : s ≠ []
  digits : ∀ c ∈ s, c.isDigit = true
  value : decimalNumber s = n

/-- The number is taken literally or refused, and only a numeral of zero selects the
super user. -/
structure EuidCorrect (s : Text) (call : EuidCall) : Prop where
  literal : (∃ n, IsNumeral s n ∧ n < 2 ^ 32 - 1 ∧ call.called = some n) ∨
    (call.called = none ∧ ∃ e, call.result = .error e)
  root : call.called = some 0 → IsNumeral s 0

/-- The number of the digits at the front. -/
def leadingNumber (s : Text) : Nat := decimalNumber (s.takeWhile Char.isDigit)

/-- A numeral in range, or digits at the front whose number becomes the sentinel: it
is out of range for `long`, or has its lowest 32 bits set. -/
def EuidLiteral (s : Text) : Prop :=
  ((∀ c ∈ s, c.isDigit = true) ∧ decimalNumber s < 2 ^ 32 - 1) ∨
    2 ^ 63 - 1 ≤ leadingNumber s ∨ leadingNumber s % 2 ^ 32 = 2 ^ 32 - 1

/-! ## The number that is read -/

/-- The lowest bits of the number at the front; the largest `long` for a number out
of range. -/
theorem toUnsigned_atol {s : Text} (h : s.head?.any Char.isDigit = true) :
    toUnsigned (atol (cstr s)) = min (leadingNumber s) (2 ^ 63 - 1) % 2 ^ 32 := by
  cases s with
  | nil => cases h
  | cons d rest =>
    have hd : d.isDigit = true := h
    have hnul : d ≠ '\x00' := fun heq => absurd (heq ▸ hd) (by decide)
    -- the NUL that ends the C string is no digit
    have htake : (cstr (d :: rest)).takeWhile Char.isDigit = (d :: rest).takeWhile Char.isDigit := by
      rw [cstr, List.takeWhile_takeWhile]
      congr 1
      funext c
      by_cases hc : c = '\x00'
      · subst hc
        decide
      · simp [hc]
    rw [cstr_cons hnul] at htake ⊢
    rw [atol, strtol_of_digit hd, htake]
    show toUnsigned (clipLong false (leadingNumber (d :: rest))) = _
    rw [clipLong, if_neg Bool.false_ne_true, toUnsigned]
    omega

section Euid

variable {getpwnam : Text → Option Nat} {seteuid : Nat → Bool} {s : Text}

/-- A text that starts with a digit: the sentinel is refused, another number goes to
`seteuid`. -/
theorem setEuid_of_digit (h : s.head?.any Char.isDigit = true) :
    (setEuid getpwnam seteuid s).called =
        (if min (leadingNumber s) (2 ^ 63 - 1) % 2 ^ 32 = 2 ^ 32 - 1 then none
        else some (min (leadingNumber s) (2 ^ 63 - 1) % 2 ^ 32)) ∧
      (min (leadingNumber s) (2 ^ 63 - 1) % 2 ^ 32 = 2 ^ 32 - 1 →
        (setEuid getpwnam seteuid s).result = .error .noUser) := by
  have hnew : newEuid getpwnam s = .ok (min (leadingNumber s) (2 ^ 63 - 1) % 2 ^ 32) := by
    rw [newEuid, if_pos h, toUnsigned_atol h]
  have hplain : ¬ (s.isEmpty || s == ['-']) = true := by
    cases s with
    | nil => cases h
    | cons d rest =>
      have hd : d.isDigit = true := h
      have hminus : d ≠ '-' := fun heq => absurd (heq ▸ hd) (by decide)
      simp [hminus]
  have hsentinel : toUnsigned (-1) = 2 ^ 32 - 1 := by decide
  rw [setEuid, if_neg hplain, hnew]
  simp only [hsentinel]
  generalize min (leadingNumber s) (2 ^ 63 - 1) % 2 ^ 32 = neweuid
  by_cases hlast : neweuid = 2 ^ 32 - 1
  · rw [if_pos hlast, if_pos hlast]
    exact ⟨rfl, fun _ => rfl⟩
  · rw [if_neg hlast, if_neg hlast]
    refine ⟨?_, fun heq => absurd heq hlast⟩
    split <;> rfl

end Euid

/-- **Exactness.** A text that starts with a digit is taken literally or refused
exactly when it is a numeral in range or its leading number becomes the sentinel. -/
theorem euidCorrect_iff (getpwnam : Text → Option Nat) (seteuid : Nat → Bool) {s : Text}
    (h : s.head?.any Char.isDigit = true) :
    EuidCorrect s (setEuid getpwnam seteuid s) ↔ EuidLiteral s := by
  rcases @setEuid_of_digit getpwnam seteuid s h with ⟨hcalled, hresult⟩
  have hne : s ≠ [] := by
    rintro rfl
    exact absurd h (by decide)
  constructor
  · intro hcorrect
    rcases hcorrect.literal with ⟨n, hnumeral, hlt, -⟩ | ⟨hnone, -⟩
    · exact Or.inl ⟨hnumeral.digits, hnumeral.value ▸ hlt⟩
    · right
      rw [hcalled] at hnone
      split at hnone
      · omega
      · cases hnone
  · rintro (⟨hdigits, hlt⟩ | hsentinel)
    · -- a numeral in range is its own leading number
      have hleading : leadingNumber s = decimalNumber s := by
        rw [leadingNumber, List.takeWhile_eq_self_iff.mpr hdigits]
      have hnumeral : IsNumeral s (decimalNumber s) := ⟨hne, hdigits, rfl⟩
      have hsame : min (leadingNumber s) (2 ^ 63 - 1) % 2 ^ 32 = decimalNumber s := by omega
      rw [hsame, if_neg (by omega)] at hcalled
      refine ⟨Or.inl ⟨_, hnumeral, hlt, hcalled⟩, fun hzero => ?_⟩
      have hroot : decimalNumber s = 0 := Option.some.inj (hcalled.symm.trans hzero)
      exact hroot ▸ hnumeral
    · have hlast : min (leadingNumber s) (2 ^ 63 - 1) % 2 ^ 32 = 2 ^ 32 - 1 := by omega
      rw [if_pos hlast] at hcalled
      refine ⟨Or.inr ⟨hcalled, _, hresult hlast⟩, fun hzero => ?_⟩
      rw [hcalled] at hzero
      cases hzero

theorem euidCorrect_iff_thousand :
    EuidCorrect "1000".toList (setEuid (fun _ => none) (fun _ => true) "1000".toList) ↔
      EuidLiteral "1000".toList :=
  euidCorrect_iff (fun _ => none) (fun _ => true) rfl

/-- A number that is too large by one bit selects the super user. -/
theorem setEuid_wraps :
    setEuid (fun _ => none) (fun _ => true) "4294967296".toList = ⟨some 0, .ok ()⟩ ∧
      ¬ EuidCorrect "4294967296".toList
        (setEuid (fun _ => none) (fun _ => true) "4294967296".toList) := by
  have hrun : setEuid (fun _ => none) (fun _ => true) "4294967296".toList = ⟨some 0, .ok ()⟩ := by
    rfl
  refine ⟨hrun, fun hcorrect => ?_⟩
  have hzero := hcorrect.root (by rw [hrun])
  exact absurd hzero.value (by decide)

end HelpCovid.Startup
