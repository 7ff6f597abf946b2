import HelpCovid.Lib.Hex

/-!
# Decimal numbers in C text

`strtol` in base 10, which skips blanks and takes a sign, `atoi`, and
`std::to_string`.
-/

namespace CText

/-- The number that decimal digits stand for. -/
def decimalNumber (digits : Text) : Nat :=
  Nat.ofDigits 10 (digits.reverse.map fun c => c.toNat - 48)

/-- The result of `strtol` for a number read: out of range it is the nearest bound. -/
def clipLong (negative : Bool) (n : Nat) : Int :=
  if negative then max (-(2 : Int) ^ 63) (-n) else min (n : Int) (2 ^ 63 - 1)

/-- `strtol(s, &end, 10)`: the number and the text from `end` on, if there is a
number. -/
def strtol (s : Text) : Option (Int × Text) :=
  let (negative, s) := scanSign (blanks s)
  let digits := s.takeWhile Char.isDigit
  if digits.isEmpty then none
  else some (clipLong negative (decimalNumber digits), s.dropWhile Char.isDigit)

/-- The number a text starts with, of any size; zero, if there is none. -/
def signedNumber (s : Text) : Int :=
  let (negative, s) := scanSign (blanks s)
  let n := decimalNumber (s.takeWhile Char.isDigit)
  if negative then -n else n

/-- `atoi`, which is `strtol` cut to 32 bits. -/
def atoi (s : Text) : Int := Int.bmod (((strtol s).map Prod.fst).getD 0) (2 ^ 32)

/-- The conversion of an integer to `unsigned`. -/
def toUnsigned (n : Int) : Nat := (n % 2 ^ 32).toNat

/-- `%u`: the number `strtoul` gives, cut to 32 bits, and the input left. -/
def scanUnsigned (s : Text) : Option (Nat × Text) :=
  let (negative, s) := scanSign (blanks s)
  let digits := s.takeWhile Char.isDigit
  if digits.isEmpty then none
  else some ((clipUnsigned negative (decimalNumber digits)).toNat % 2 ^ 32,
    s.dropWhile Char.isDigit)

theorem isHexDigit_of_isDigit {c : Char} (h : c.isDigit = true) : isHexDigit c = true := by
  rw [isHexDigit, h]
  rfl

/-- Before a digit there is neither a blank nor a sign. -/
theorem scanSign_blanks_of_digit {d : Char} (hd : d.isDigit = true) (rest : Text) :
    scanSign (blanks (d :: rest)) = (false, d :: rest) := by
  have hspace := not_isSpace_of_isHexDigit (isHexDigit_of_isDigit hd)
  have hblanks : blanks (d :: rest) = d :: rest := by simp [blanks, hspace]
  have hsign := scanSign_digits (List.cons_ne_nil d [])
    (fun c hc => isHexDigit_of_isDigit (List.mem_singleton.mp hc ▸ hd)) rest
  rw [hblanks]
  exact hsign

/-- A text that starts with a digit is read up to its first other character. -/
theorem strtol_of_digit {d : Char} (hd : d.isDigit = true) (rest : Text) :
    strtol (d :: rest) =
      some (clipLong false (decimalNumber ((d :: rest).takeWhile Char.isDigit)),
        (d :: rest).dropWhile Char.isDigit) := by
  have hne : ¬ ((d :: rest).takeWhile Char.isDigit).isEmpty = true := by
    rw [List.takeWhile_cons_of_pos hd]
    exact Bool.false_ne_true
  simp only [strtol, scanSign_blanks_of_digit hd, if_neg hne]

/-- Digits are read to their end, where the number fits. -/
theorem scanUnsigned_digits {digits rest : Text} (hne : digits ≠ [])
    (hdigits : ∀ c ∈ digits, c.isDigit = true) (hrest : ∀ c ∈ rest.head?, c.isDigit = false)
    (hfits : decimalNumber digits < 2 ^ 32) :
    scanUnsigned (digits ++ rest) = some (decimalNumber digits, rest) := by
  have hsign : scanSign (blanks (digits ++ rest)) = (false, digits ++ rest) := by
    rcases List.exists_cons_of_ne_nil hne with ⟨d, ds, rfl⟩
    exact scanSign_blanks_of_digit (hdigits d List.mem_cons_self) (ds ++ rest)
  have htake : (digits ++ rest).takeWhile Char.isDigit = digits ∧
      (digits ++ rest).dropWhile Char.isDigit = rest := by
    rw [List.takeWhile_append_of_pos hdigits, List.dropWhile_append_of_pos hdigits]
    cases rest with
    | nil => simp
    | cons c cs =>
      have hc := hrest c rfl
      simp [hc]
  have hclip : (clipUnsigned false (decimalNumber digits)).toNat % 2 ^ 32 =
      decimalNumber digits := by
    rw [clipUnsigned, if_neg (by omega), if_neg (by decide), BitVec.toNat_ofNat]
    omega
  have hempty : ¬ digits.isEmpty = true := by simpa using hne
  simp only [scanUnsigned, hsign, htake.1, htake.2, if_neg hempty, hclip]

/-! ## Writing -/

/-- `std::to_string` of a number that is not negative. -/
def toDecimal (n : Nat) : Text := Nat.toDigits 10 n

/-- `%d` -/
def signedDecimal (n : Int) : Text :=
  if n < 0 then '-' :: toDecimal n.natAbs else toDecimal n.natAbs

theorem isDigit_of_mem_toDecimal {n : Nat} {c : Char} (h : c ∈ toDecimal n) : c.isDigit = true :=
  Nat.isDigit_of_mem_toDigits (by decide) (by decide) h

theorem toDecimal_ne_nil (n : Nat) : toDecimal n ≠ [] := Nat.toDigits_ne_nil

theorem decimalNumber_concat (digits : Text) (d : Char) :
    decimalNumber (digits ++ [d]) = 10 * decimalNumber digits + (d.toNat - 48) := by
  rw [decimalNumber, List.reverse_append, List.reverse_singleton, List.singleton_append,
    List.map_cons, Nat.ofDigits_cons, Nat.add_comm]
  rfl

theorem toNat_digitChar_sub {d : Nat} (h : d < 10) : (Nat.digitChar d).toNat - 48 = d := by
  have hall : ∀ d < 10, (Nat.digitChar d).toNat - 48 = d := by decide
  exact hall d h

/-- What is written is the number. -/
theorem decimalNumber_toDecimal (n : Nat) : decimalNumber (toDecimal n) = n := by
  unfold toDecimal
  induction n using Nat.strongRecOn with
  | ind n ih =>
      rw [Nat.toDigits_eq_if (by decide)]
      split
      · next hlt =>
          have hempty : decimalNumber [] = 0 := rfl
          rw [← List.nil_append [n.digitChar], decimalNumber_concat, toNat_digitChar_sub hlt, hempty]
          omega
      · next hge =>
          have hmod : n % 10 < 10 := Nat.mod_lt _ (by decide)
          rw [decimalNumber_concat, ih (n / 10) (by omega), toNat_digitChar_sub hmod]
          omega

end CText
