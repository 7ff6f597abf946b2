import HelpCovid.Http.Message
import HelpCovid.Lib.Hex

/-!
# Percent-encoded text

`detail::decode_url` takes apart the path and the parameters of a request: a `%`
and two hexadecimal digits stand for a byte, `%u` and four of them for the UTF-8
bytes of a character, and in parameters a `+` stands for a blank. A `%` that
starts nothing of the kind stands for itself. Whatever way a client chooses to
encode a text, the decoder gives that text back (`decodeUrl_of_encodes`).
-/

namespace HelpCovid.Http

open CText

/-! ## Digits -/

/-- `detail::is_hex` -/
def isHex (c : Char) : Option Nat :=
  if c.isDigit then some (c.toNat - 48)
  else if 'A' ≤ c ∧ c ≤ 'F' then some (c.toNat - 65 + 10)
  else if 'a' ≤ c ∧ c ≤ 'f' then some (c.toNat - 97 + 10)
  else none

/-- The loop of `detail::from_hex_to_i`, from a position of the string on. A
position past the end reads as a zero byte, which is no digit. -/
def fromHexToI : (cnt val : Nat) → Text → Option Nat
  | 0, val, _ => some val
  | _ + 1, _, [] => none
  | cnt + 1, val, c :: s => (isHex c).bind fun v => fromHexToI cnt (val * 16 + v) s

/-- `detail::to_utf8` -/
def toUtf8 (code : Nat) : Text :=
  if code < 0x80 then [.ofNat (code &&& 0x7F)]
  else if code < 0x800 then
    [.ofNat (0xC0 ||| ((code >>> 6) &&& 0x1F)), .ofNat (0x80 ||| (code &&& 0x3F))]
  else if code < 0xD800 then
    [.ofNat (0xE0 ||| ((code >>> 12) &&& 0xF)), .ofNat (0x80 ||| ((code >>> 6) &&& 0x3F)),
      .ofNat (0x80 ||| (code &&& 0x3F))]
  else if code < 0xE000 then []
  else if code < 0x10000 then
    [.ofNat (0xE0 ||| ((code >>> 12) &&& 0xF)), .ofNat (0x80 ||| ((code >>> 6) &&& 0x3F)),
      .ofNat (0x80 ||| (code &&& 0x3F))]
  else if code < 0x110000 then
    [.ofNat (0xF0 ||| ((code >>> 18) &&& 0x7)), .ofNat (0x80 ||| ((code >>> 12) &&& 0x3F)),
      .ofNat (0x80 ||| ((code >>> 6) &&& 0x3F)), .ofNat (0x80 ||| (code &&& 0x3F))]
  else []

/-! ## Decoding -/

/-- What follows a `%`: the bytes it stands for, and how many positions they take. -/
def escape (s : Text) : Option (Text × Nat) :=
  if s.head? = some 'u' then (fromHexToI 4 0 (s.drop 1)).map fun val => (toUtf8 val, 5)
  else (fromHexToI 2 0 s).map fun val => ([.ofNat val], 2)

/-- The loop of `detail::decode_url`, which first skips some positions. -/
def decodeFrom (convertPlusToSpace : Bool) : (skip : Nat) → Text → Text
  | _, [] => []
  | skip + 1, _ :: s => decodeFrom convertPlusToSpace skip s
  | 0, c :: s =>
      if c = '%' then
        match escape s with
        | some (bytes, skip) => bytes ++ decodeFrom convertPlusToSpace skip s
        | none => c :: decodeFrom convertPlusToSpace 0 s
      else if convertPlusToSpace ∧ c = '+' then ' ' :: decodeFrom convertPlusToSpace 0 s
      else c :: decodeFrom convertPlusToSpace 0 s

/-- `detail::decode_url` -/
def decodeUrl (s : Text) (convertPlusToSpace : Bool) : Text := decodeFrom convertPlusToSpace 0 s

/-! ## Characters outside ASCII -/

/-- The marks of a byte are above the bits it carries. -/
theorem mark_or_and (k mark n : Nat) :
    2 ^ k * mark ||| (n &&& (2 ^ k - 1)) = n % 2 ^ k + 2 ^ k * mark := by
  rw [Nat.and_two_pow_sub_one_eq_mod, Nat.add_comm]
  exact (Nat.two_pow_add_eq_or_of_lt (Nat.mod_lt _ (Nat.two_pow_pos k)) mark).symm

theorem continuation_eq (n : Nat) : 0x80 ||| (n &&& 0x3F) = n % 0x40 + 0x80 := mark_or_and 6 2 n

theorem leadTwo_eq (n : Nat) : 0xC0 ||| (n &&& 0x1F) = n % 0x20 + 0xC0 := mark_or_and 5 6 n

theorem leadThree_eq (n : Nat) : 0xE0 ||| (n &&& 0xF) = n % 0x10 + 0xE0 := mark_or_and 4 14 n

theorem leadFour_eq (n : Nat) : 0xF0 ||| (n &&& 0x7) = n % 0x8 + 0xF0 := mark_or_and 3 30 n

/-- The bytes of a character are those of its UTF-8 encoding. -/
theorem toUtf8_eq (c : Char) :
    toUtf8 c.toNat = (String.utf8EncodeChar c).map fun byte => .ofNat byte.toNat := by
  have hvalid : c.toNat < 0xD800 ∨ 0xDFFF < c.toNat ∧ c.toNat < 0x110000 := c.valid
  have hbyte : ∀ n, n < 256 → (UInt8.ofNat n).toNat = n := by
    intro n hn
    rw [UInt8.toNat_ofNat', Nat.mod_eq_of_lt hn]
  have hfirst : c.toNat &&& 0x7F = c.toNat % 0x80 := Nat.and_two_pow_sub_one_eq_mod _ 7
  unfold toUtf8 String.utf8EncodeChar
  simp only [continuation_eq, leadTwo_eq, leadThree_eq, leadFour_eq, hfirst,
    Nat.shiftRight_eq_div_pow]
  change _ = List.map _ (if c.toNat ≤ 0x7F then [UInt8.ofNat c.toNat] else
    if c.toNat ≤ 0x7FF then [.ofNat (c.toNat / 64 % 0x20 + 0xC0), .ofNat (c.toNat % 0x40 + 0x80)]
    else if c.toNat ≤ 0xFFFF then
      [.ofNat (c.toNat / 4096 % 0x10 + 0xE0), .ofNat (c.toNat / 64 % 0x40 + 0x80),
        .ofNat (c.toNat % 0x40 + 0x80)]
    else
      [.ofNat (c.toNat / 262144 % 0x8 + 0xF0), .ofNat (c.toNat / 4096 % 0x40 + 0x80),
        .ofNat (c.toNat / 64 % 0x40 + 0x80), .ofNat (c.toNat % 0x40 + 0x80)])
  generalize c.toNat = v at *
  by_cases h1 : v < 0x80
  · rw [if_pos h1, if_pos (Nat.le_of_lt_succ h1), Nat.mod_eq_of_lt h1]
    simp only [List.map_cons, List.map_nil, hbyte v (by omega)]
  have h1' : ¬ v ≤ 0x7F := by omega
  rw [if_neg h1, if_neg h1']
  by_cases h2 : v < 0x800
  · rw [if_pos h2, if_pos (Nat.le_of_lt_succ h2)]
    simp (disch := omega) only [List.map_cons, List.map_nil, hbyte]
  have h2' : ¬ v ≤ 0x7FF := by omega
  rw [if_neg h2, if_neg h2']
  by_cases h3 : v < 0x10000
  · rw [if_pos (Nat.le_of_lt_succ h3)]
    simp (disch := omega) only [List.map_cons, List.map_nil, hbyte]
    split
    · rfl
    · next hlow =>
        have hhigh : ¬ v < 0xE000 := by omega
        rw [if_neg hhigh]
  have h3' : ¬ v ≤ 0xFFFF := by omega
  have hlow : ¬ v < 0xD800 := by omega
  have hhigh : ¬ v < 0xE000 := by omega
  have htop : v < 0x110000 := by omega
  rw [if_neg hlow, if_neg hhigh, if_neg h3, if_pos htop, if_neg h3']
  simp (disch := omega) only [List.map_cons, List.map_nil, hbyte]

/-! ## Encoding -/

/-- The bytes that a character outside ASCII is sent as. -/
def utf8Bytes (c : Char) : Text := (String.utf8EncodeChar c).map fun byte => .ofNat byte.toNat

/-- A way to write some bytes, the second text standing for the first. -/
inductive EncodesUnit (plus : Bool) : Text → Text → Prop
  | plain {c : Char} (hpercent : c ≠ '%') (hplus : plus = true → c ≠ '+') :
      EncodesUnit plus [c] [c]
  | plus (hplus : plus = true) : EncodesUnit plus [' '] ['+']
  | hex {c d e : Char} {hi lo : Nat} (hd : isHex d = some hi) (he : isHex e = some lo)
      (hc : c.toNat = 16 * hi + lo) : EncodesUnit plus [c] ['%', d, e]
  | unicode {c : Char} {digits : Text} (hdigits : digits.length = 4)
      (hc : fromHexToI 4 0 digits = some c.toNat) :
      EncodesUnit plus (utf8Bytes c) ('%' :: 'u' :: digits)

/-- A way to write a text, unit by unit. -/
inductive Encodes (plus : Bool) : Text → Text → Prop
  | nil : Encodes plus [] []
  | cons {bytes s unit enc : Text} (hunit : EncodesUnit plus bytes unit)
      (hs : Encodes plus s enc) : Encodes plus (bytes ++ s) (unit ++ enc)

theorem isHex_u : isHex 'u' = none := by decide

/-- Digits are read up to their number, whatever follows. -/
theorem fromHexToI_append {cnt : Nat} {digits : Text} (h : digits.length = cnt) (val : Nat)
    (rest : Text) : fromHexToI cnt val (digits ++ rest) = fromHexToI cnt val digits := by
  induction digits generalizing cnt val with
  | nil =>
      obtain rfl : 0 = cnt := h
      rfl
  | cons d digits ih =>
      obtain rfl : digits.length + 1 = cnt := h
      simp only [List.cons_append, fromHexToI, ih rfl]

theorem decodeFrom_skip (plus : Bool) (skipped rest : Text) :
    decodeFrom plus skipped.length (skipped ++ rest) = decodeFrom plus 0 rest := by
  induction skipped with
  | nil => rfl
  | cons c skipped ih => exact ih

theorem decodeFrom_escape {plus : Bool} {bytes skipped rest : Text}
    (h : escape (skipped ++ rest) = some (bytes, skipped.length)) :
    decodeFrom plus 0 ('%' :: (skipped ++ rest)) = bytes ++ decodeFrom plus 0 rest := by
  rw [decodeFrom, if_pos rfl, h]
  exact congrArg (bytes ++ ·) (decodeFrom_skip plus skipped rest)

theorem decodeFrom_unit {plus : Bool} {bytes unit : Text} (h : EncodesUnit plus bytes unit)
    (rest : Text) : decodeFrom plus 0 (unit ++ rest) = bytes ++ decodeFrom plus 0 rest := by
  cases h with
  | plain hpercent hplus =>
      rw [List.singleton_append, decodeFrom, if_neg hpercent, if_neg fun h => hplus h.1 h.2]
      rfl
  | plus hplus =>
      rw [List.singleton_append, decodeFrom, if_neg (by decide), if_pos ⟨hplus, rfl⟩]
      rfl
  | @hex c d e hi lo hd he hc =>
      refine @decodeFrom_escape _ _ [d, e] _ ?_
      have hu : d ≠ 'u' := by
        intro heq
        rw [heq, isHex_u] at hd
        cases hd
      rw [escape, if_neg (by simpa using hu), @fromHexToI_append 2 [d, e] rfl]
      simp only [fromHexToI, hd, he, Option.bind_some, Option.map_some]
      rw [Nat.zero_mul, Nat.zero_add, Nat.mul_comm hi, ← hc, Char.ofNat_toNat]
      rfl
  | @unicode c digits hdigits hc =>
      refine @decodeFrom_escape _ _ ('u' :: digits) _ ?_
      rw [escape, List.cons_append, List.head?_cons, if_pos rfl, List.drop_one, List.tail_cons,
        fromHexToI_append hdigits, hc, Option.map_some, toUtf8_eq, List.length_cons, hdigits]
      rfl

/-- The decoder gives the text back, whichever way it was encoded. -/
theorem decodeUrl_of_encodes {plus : Bool} {s enc : Text} (h : Encodes plus s enc) :
    decodeUrl enc plus = s := by
  rw [decodeUrl]
  induction h with
  | nil => rfl
  | cons hunit _ ih => rw [decodeFrom_unit hunit, ih]

end HelpCovid.Http
