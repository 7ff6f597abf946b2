import HelpCovid.Lib.CText
import Mathlib.Data.Nat.Digits.Lemmas
import Mathlib.Tactic.IntervalCases

/-!
# Hexadecimal numbers in C text

The `%0Nx` conversion of `printf` and the `%lx` conversion of `scanf`. The
second one is laxer than the first: it skips blanks, takes a sign and a `0x`,
any number of digits of either case, and clips a number that is too large.
-/

namespace CText

/-! ## Printing -/

/-- The digit of a number below 16. -/
def hexDigit (d : Nat) : Char := if d < 10 then Char.ofNat (48 + d) else Char.ofNat (87 + d)

/-- `%x` -/
def hexText (n : Nat) : Text := if n = 0 then ['0'] else (Nat.digits 16 n).reverse.map hexDigit

/-- `%0Nx` -/
def hexPad (width n : Nat) : Text :=
  List.replicate (width - (hexText n).length) '0' ++ hexText n

/-! ## Scanning -/

/-- `isxdigit` -/
def isHexDigit (c : Char) : Bool :=
  c.isDigit || (decide ('a' ≤ c) && decide (c ≤ 'f')) || (decide ('A' ≤ c) && decide (c ≤ 'F'))

/-- The value of a hexadecimal digit. -/
def hexValue (c : Char) : Nat :=
  if c.isDigit then c.toNat - 48
  else if 'a' ≤ c then c.toNat - 87
  else c.toNat - 55

/-- The number that digits stand for. -/
def hexNumber (digits : Text) : Nat := Nat.ofDigits 16 (digits.reverse.map hexValue)

/-- An optional sign; `true` for a minus. -/
def scanSign (s : Text) : Bool × Text :=
  if s.head? = some '-' then (true, s.drop 1)
  else if s.head? = some '+' then (false, s.drop 1)
  else (false, s)

/-- An optional `0x`; `true` when it is there. -/
def scanHexMark (s : Text) : Bool × Text :=
  if s.head? = some '0' ∧ ((s.drop 1).head? = some 'x' ∨ (s.drop 1).head? = some 'X') then
    (true, s.drop 2)
  else (false, s)

/-- The result of `strtoul` for a number read: out of range it is the largest. -/
def clipUnsigned (negative : Bool) (n : Nat) : BitVec 64 :=
  if 2 ^ 64 ≤ n then BitVec.allOnes 64
  else if negative then -BitVec.ofNat 64 n
  else BitVec.ofNat 64 n

/-- `%lx`: the number and the input left. A `0x` without digits is a zero. -/
def scanHex (s : Text) : Option (BitVec 64 × Text) :=
  let (negative, s) := scanSign (blanks s)
  let (marked, s) := scanHexMark s
  let digits := s.takeWhile isHexDigit
  if digits.isEmpty && !marked then none
  else some (clipUnsigned negative (hexNumber digits), s.dropWhile isHexDigit)

/-! ## Digits -/

theorem hexDigit_spec {d : Nat} (h : d < 16) :
    isHexDigit (hexDigit d) = true ∧ hexValue (hexDigit d) = d := by
  interval_cases d <;> decide

theorem isHexDigit_hexText (n : Nat) : ∀ c ∈ hexText n, isHexDigit c = true := by
  unfold hexText
  split
  · intro c hc
    rcases List.mem_singleton.mp hc with rfl
    decide
  · intro c hc
    rcases List.mem_map.mp hc with ⟨d, hd, rfl⟩
    exact (hexDigit_spec (Nat.digits_lt_base (by decide) (List.mem_reverse.mp hd))).1

theorem isHexDigit_hexPad (width n : Nat) : ∀ c ∈ hexPad width n, isHexDigit c = true := by
  intro c hc
  rcases List.mem_append.mp hc with hzero | htext
  · rw [List.eq_of_mem_replicate hzero]
    decide
  · exact isHexDigit_hexText n c htext

theorem hexText_ne_nil (n : Nat) : hexText n ≠ [] := by
  unfold hexText
  split
  · simp
  · next h => simpa [Nat.digits_eq_nil_iff_eq_zero] using h

theorem hexPad_ne_nil (width n : Nat) : hexPad width n ≠ [] := by
  intro h
  exact hexText_ne_nil n (List.append_eq_nil_iff.mp h).2

/-- A number below `16 ^ k` has at most `k` digits. -/
theorem length_hexText_le {n k : Nat} (hk : 0 < k) (h : n < 16 ^ k) : (hexText n).length ≤ k := by
  unfold hexText
  split
  · exact hk
  · rw [List.length_map, List.length_reverse]
    exact (Nat.digits_length_le_iff (by decide) n).mpr h

theorem length_hexPad_le {width n k : Nat} (hk : 0 < k) (h : n < 16 ^ k) :
    (hexPad width n).length ≤ max width k := by
  have := length_hexText_le hk h
  rw [hexPad, List.length_append, List.length_replicate]
  omega

theorem le_length_hexPad (width n : Nat) : width ≤ (hexPad width n).length := by
  rw [hexPad, List.length_append, List.length_replicate]
  omega

theorem map_hexValue_hexText {n : Nat} :
    Nat.ofDigits 16 ((hexText n).reverse.map hexValue) = n := by
  unfold hexText
  split
  · next h => rw [h]; decide
  · rw [← List.map_reverse, List.reverse_reverse, List.map_map]
    have hdigits : (Nat.digits 16 n).map (hexValue ∘ hexDigit) = Nat.digits 16 n := by
      conv_rhs => rw [← List.map_id (Nat.digits 16 n)]
      apply List.map_congr_left
      intro d hd
      exact (hexDigit_spec (Nat.digits_lt_base (by decide) hd)).2
    rw [hdigits, Nat.ofDigits_digits]

/-- Padding does not change the number. -/
theorem hexNumber_hexPad (width n : Nat) : hexNumber (hexPad width n) = n := by
  have hzero : hexValue '0' = 0 := by decide
  rw [hexNumber, hexPad, List.reverse_append, List.map_append, List.reverse_replicate,
    List.map_replicate, hzero, Nat.ofDigits_append_replicate_zero, map_hexValue_hexText]

/-! ## Reading digits back -/

theorem not_isSpace_of_isHexDigit {c : Char} (h : isHexDigit c = true) : isSpace c = false := by
  by_contra hspace
  simp only [isSpace, Bool.not_eq_false, Bool.or_eq_true, beq_iff_eq] at hspace
  rcases hspace with ((((rfl | rfl) | rfl) | rfl) | rfl) | rfl <;> simp [isHexDigit] at h

/-- No digit is taken for a sign. -/
theorem scanSign_digits {digits : Text} (hne : digits ≠ [])
    (hdigits : ∀ c ∈ digits, isHexDigit c = true) (rest : Text) :
    scanSign (digits ++ rest) = (false, digits ++ rest) := by
  cases digits with
  | nil => exact absurd rfl hne
  | cons c cs =>
      have hc := hdigits c (by simp)
      have hminus : c ≠ '-' := by
        rintro rfl
        simp [isHexDigit] at hc
      have hplus : c ≠ '+' := by
        rintro rfl
        simp [isHexDigit] at hc
      simp [scanSign, hminus, hplus]

/-- No digit is an `x`: there is no mark where none follows. -/
theorem scanHexMark_digits {digits rest : Text} (hne : digits ≠ [])
    (hdigits : ∀ c ∈ digits, isHexDigit c = true) (hrest : ∀ c ∈ rest.head?, c ≠ 'x' ∧ c ≠ 'X') :
    scanHexMark (digits ++ rest) = (false, digits ++ rest) := by
  unfold scanHexMark
  rw [if_neg]
  rintro ⟨-, hx⟩
  cases digits with
  | nil => exact hne rfl
  | cons c cs =>
      cases cs with
      | nil =>
          simp only [List.cons_append, List.nil_append, List.drop_one, List.tail_cons] at hx
          rcases hx with hx | hx
          · exact (hrest _ hx).1 rfl
          · exact (hrest _ hx).2 rfl
      | cons d ds =>
          have hd := hdigits d (by simp)
          simp only [List.cons_append, List.drop_one, List.tail_cons, List.head?_cons,
            Option.some.injEq] at hx
          rcases hx with rfl | rfl
          · simp [isHexDigit] at hd
          · simp [isHexDigit] at hd

/-- The digits end where something else than a digit follows. -/
theorem takeWhile_digits {digits rest : Text} (hdigits : ∀ c ∈ digits, isHexDigit c = true)
    (hrest : ∀ c ∈ rest.head?, isHexDigit c = false) :
    (digits ++ rest).takeWhile isHexDigit = digits ∧
      (digits ++ rest).dropWhile isHexDigit = rest := by
  have hstop : rest.takeWhile isHexDigit = [] ∧ rest.dropWhile isHexDigit = rest := by
    cases rest with
    | nil => simp
    | cons c cs =>
        have hc := hrest c (by simp)
        simp [hc]
  constructor
  · rw [List.takeWhile_append_of_pos hdigits, hstop.1, List.append_nil]
  · rw [List.dropWhile_append_of_pos hdigits, hstop.2]

/-- Digits that are followed by something else than a digit or a mark are read
as the number they stand for. -/
theorem scanHex_digits {digits rest : Text} (hne : digits ≠ [])
    (hdigits : ∀ c ∈ digits, isHexDigit c = true)
    (hrest : ∀ c ∈ rest.head?, isHexDigit c = false ∧ c ≠ 'x' ∧ c ≠ 'X')
    (hsize : hexNumber digits < 2 ^ 64) :
    scanHex (digits ++ rest) = some (BitVec.ofNat 64 (hexNumber digits), rest) := by
  have hblanks : blanks (digits ++ rest) = digits ++ rest := by
    cases digits with
    | nil => exact absurd rfl hne
    | cons c cs =>
        have hc := not_isSpace_of_isHexDigit (hdigits c (by simp))
        simp [blanks, hc]
  have hsign := scanSign_digits hne hdigits rest
  have hmark := scanHexMark_digits hne hdigits fun c hc => (hrest c hc).2
  have htake := takeWhile_digits hdigits fun c hc => (hrest c hc).1
  have hempty : digits.isEmpty = false := by simpa using hne
  simp only [scanHex, hblanks, hsign, hmark, htake.1, htake.2, hempty, clipUnsigned,
    if_neg (Nat.not_le.mpr hsize), Bool.false_and, Bool.false_eq_true, if_false]

/-- A printed number is read back. -/
theorem scanHex_hexPad (width : Nat) {n : Nat} (rest : Text) (hn : n < 2 ^ 64)
    (hrest : ∀ c ∈ rest.head?, isHexDigit c = false ∧ c ≠ 'x' ∧ c ≠ 'X') :
    scanHex (hexPad width n ++ rest) = some (BitVec.ofNat 64 n, rest) := by
  have h := scanHex_digits (hexPad_ne_nil width n) (isHexDigit_hexPad width n) hrest
  rw [hexNumber_hexPad] at h
  exact h hn

/-! ## The shape of a printed number -/

/-- A digit that `%x` prints. -/
def isLowerHexDigit (c : Char) : Bool := c.isDigit || (decide ('a' ≤ c) && decide (c ≤ 'f'))

/-- The shape of what `%0Nx` prints: as wide as asked for, and no zero in front
of a number that is wider. -/
structure IsHexPadded (width : Nat) (digits : Text) : Prop where
  lower : ∀ c ∈ digits, isLowerHexDigit c = true
  wide : width ≤ digits.length
  tight : width < digits.length → digits.head? ≠ some '0'

theorem isLowerHexDigit_hexDigit {d : Nat} (h : d < 16) : isLowerHexDigit (hexDigit d) = true := by
  interval_cases d <;> decide

/-- A digit is the printed form of its value. -/
theorem hexDigit_hexValue {c : Char} (h : isLowerHexDigit c = true) :
    hexValue c < 16 ∧ hexDigit (hexValue c) = c := by
  have hrange : (48 ≤ c.toNat ∧ c.toNat ≤ 57) ∨ (97 ≤ c.toNat ∧ c.toNat ≤ 102) := by
    simp only [isLowerHexDigit, Char.isDigit, Bool.or_eq_true, Bool.and_eq_true,
      decide_eq_true_eq] at h
    rcases h with ⟨hlo, hhi⟩ | ⟨hlo, hhi⟩
    · exact Or.inl ⟨UInt32.le_iff_toNat_le.mp hlo, UInt32.le_iff_toNat_le.mp hhi⟩
    · exact Or.inr ⟨UInt32.le_iff_toNat_le.mp hlo, UInt32.le_iff_toNat_le.mp hhi⟩
  rw [← Char.ofNat_toNat c]
  generalize c.toNat = k at hrange
  rcases hrange with ⟨hlo, hhi⟩ | ⟨hlo, hhi⟩ <;> interval_cases k <;> decide

theorem hexValues_lt {digits : Text} (h : ∀ c ∈ digits, isLowerHexDigit c = true) :
    ∀ d ∈ digits.reverse.map hexValue, d < 16 := by
  intro d hd
  rcases List.mem_map.mp hd with ⟨c, hc, rfl⟩
  exact (hexDigit_hexValue (h c (List.mem_reverse.mp hc))).1

theorem hexNumber_lt {digits : Text} (h : ∀ c ∈ digits, isLowerHexDigit c = true) :
    hexNumber digits < 16 ^ digits.length := by
  have hlt := Nat.ofDigits_lt_base_pow_length (b := 16) (by decide) (hexValues_lt h)
  rwa [List.length_map, List.length_reverse] at hlt

/-- Digits of one length are determined by their number. -/
theorem hexNumber_inj {a b : Text} (ha : ∀ c ∈ a, isLowerHexDigit c = true)
    (hb : ∀ c ∈ b, isLowerHexDigit c = true) (hlen : a.length = b.length)
    (h : hexNumber a = hexNumber b) : a = b := by
  have hvalues := Nat.ofDigits_inj_of_len_eq (b := 16) (by decide) (by simpa using hlen)
    (hexValues_lt ha) (hexValues_lt hb) h
  have hback : ∀ {s : Text}, (∀ c ∈ s, isLowerHexDigit c = true) →
      (s.reverse.map hexValue).map hexDigit = s.reverse := by
    intro s hs
    rw [List.map_map]
    conv_rhs => rw [← List.map_id s.reverse]
    apply List.map_congr_left
    intro c hc
    exact (hexDigit_hexValue (hs c (List.mem_reverse.mp hc))).2
  have hrev := congrArg (List.map hexDigit) hvalues
  rw [hback ha, hback hb] at hrev
  exact List.reverse_injective hrev

/-- A longer number without a zero in front is a different number. -/
theorem hexNumber_ne_of_length {a b : Text} (ha : ∀ c ∈ a, isLowerHexDigit c = true)
    (hb : ∀ c ∈ b, isLowerHexDigit c = true) (hlen : a.length < b.length)
    (hhead : b.head? ≠ some '0') : hexNumber a ≠ hexNumber b := by
  have hlow : 16 ^ a.length ≤ hexNumber b := by
    cases b with
    | nil => exact absurd hlen (Nat.not_lt_zero _)
    | cons c cs =>
        have hc : hexValue c ≠ 0 := by
          intro hzero
          have hprint := (hexDigit_hexValue (hb c (by simp))).2
          rw [hzero] at hprint
          exact hhead (congrArg some hprint.symm)
        have hsum : hexNumber (c :: cs) = hexNumber cs + 16 ^ cs.length * hexValue c := by
          simp [hexNumber, Nat.ofDigits_append]
        have hpow : 16 ^ a.length ≤ 16 ^ cs.length :=
          Nat.pow_le_pow_right (by decide) (Nat.lt_succ_iff.mp hlen)
        calc 16 ^ a.length ≤ 16 ^ cs.length := hpow
          _ ≤ 16 ^ cs.length * hexValue c := Nat.le_mul_of_pos_right _ (Nat.pos_of_ne_zero hc)
          _ ≤ hexNumber (c :: cs) := by
            rw [hsum]
            exact Nat.le_add_left _ _
  exact ne_of_lt (lt_of_lt_of_le (hexNumber_lt ha) hlow)

theorem isLowerHexDigit_hexText (n : Nat) : ∀ c ∈ hexText n, isLowerHexDigit c = true := by
  unfold hexText
  split
  · intro c hc
    rcases List.mem_singleton.mp hc with rfl
    decide
  · intro c hc
    rcases List.mem_map.mp hc with ⟨d, hd, rfl⟩
    exact isLowerHexDigit_hexDigit (Nat.digits_lt_base (by decide) (List.mem_reverse.mp hd))

/-- No zero in front of a positive number. -/
theorem head?_hexText {n : Nat} (h : n ≠ 0) : (hexText n).head? ≠ some '0' := by
  have hne : Nat.digits 16 n ≠ [] := Nat.digits_ne_nil_iff_ne_zero.mpr h
  have hlast := Nat.getLast_digit_ne_zero 16 h
  have hlt : (Nat.digits 16 n).getLast hne < 16 :=
    Nat.digits_lt_base (by decide) (List.getLast_mem hne)
  rw [hexText, if_neg h, List.head?_map, List.head?_reverse, List.getLast?_eq_getLast_of_ne_nil hne]
  generalize (Nat.digits 16 n).getLast hne = d at hlast hlt
  simp only [Option.map_some, ne_eq, Option.some.injEq]
  intro hzero
  have hvalue := (hexDigit_spec hlt).2
  rw [hzero] at hvalue
  exact hlast (hvalue.symm.trans (by decide))

theorem isHexPadded_hexPad {width : Nat} (hwidth : 0 < width) (n : Nat) :
    IsHexPadded width (hexPad width n) where
  lower := by
    intro c hc
    rcases List.mem_append.mp hc with hzero | htext
    · rw [List.eq_of_mem_replicate hzero]
      decide
    · exact isLowerHexDigit_hexText n c htext
  wide := le_length_hexPad width n
  tight := by
    intro hlong
    have hlen : width < (hexText n).length := by
      rw [hexPad, List.length_append, List.length_replicate] at hlong
      omega
    have hpos : n ≠ 0 := by
      rintro rfl
      exact absurd hlen (Nat.not_lt.mpr hwidth)
    have hpad : hexPad width n = hexText n := by
      rw [hexPad, Nat.sub_eq_zero_of_le (le_of_lt hlen), List.replicate_zero, List.nil_append]
    rw [hpad]
    exact head?_hexText hpos

/-- Digits of that shape are what is printed for their number. -/
theorem hexPad_hexNumber {width : Nat} {digits : Text} (hwidth : 0 < width)
    (h : IsHexPadded width digits) : hexPad width (hexNumber digits) = digits := by
  have hne : digits ≠ [] := by
    rintro rfl
    exact absurd h.wide (Nat.not_le.mpr hwidth)
  have hprinted := isHexPadded_hexPad hwidth (hexNumber digits)
  have hsame := hexNumber_hexPad width (hexNumber digits)
  generalize hexPad width (hexNumber digits) = printed at hprinted hsame
  have hlen : printed.length = digits.length := by
    rcases lt_trichotomy printed.length digits.length with hlt | heq | hgt
    · exact absurd hsame (hexNumber_ne_of_length hprinted.lower h.lower hlt (h.tight (by
        have := hprinted.wide
        omega)))
    · exact heq
    · exact absurd hsame.symm (hexNumber_ne_of_length h.lower hprinted.lower hgt (hprinted.tight (by
        have := h.wide
        omega)))
  exact hexNumber_inj hprinted.lower h.lower hlen hsame

/-! ## What `%lx` reads -/

/-- The digits of a number for `%lx`: digits of either case, or a `0x` and any
number of them, even none. -/
inductive IsHexBody : Text → Prop where
  | plain {digits : Text} : digits ≠ [] → (∀ c ∈ digits, isHexDigit c = true) → IsHexBody digits
  | marked {x : Char} {digits : Text} : (x = 'x' ∨ x = 'X') →
      (∀ c ∈ digits, isHexDigit c = true) → IsHexBody ('0' :: x :: digits)

/-- A number for `%lx`: blanks, a sign and digits. -/
structure IsHexField (field : Text) : Prop where
  shape : ∃ skipped sign body, field = skipped ++ (sign ++ body) ∧
    (∀ c ∈ skipped, isSpace c = true) ∧ (sign = [] ∨ sign = ['-'] ∨ sign = ['+']) ∧ IsHexBody body

theorem IsHexBody.head {body : Text} (h : IsHexBody body) :
    ∃ c cs, body = c :: cs ∧ isHexDigit c = true := by
  cases h with
  | plain hne hdigits =>
      rcases List.exists_cons_of_ne_nil hne with ⟨c, cs, rfl⟩
      exact ⟨c, cs, rfl, hdigits c (by simp)⟩
  | marked hx hdigits => exact ⟨'0', _, rfl, by decide⟩

/-- The scan skips the blanks and takes the sign. -/
theorem scanSign_field {skipped sign body : Text} (hskipped : ∀ c ∈ skipped, isSpace c = true)
    (hsign : sign = [] ∨ sign = ['-'] ∨ sign = ['+']) (hbody : IsHexBody body) (rest : Text) :
    ∃ negative, scanSign (blanks (skipped ++ (sign ++ body) ++ rest)) = (negative, body ++ rest) := by
  rcases hbody.head with ⟨c, cs, rfl, hc⟩
  have hblank := not_isSpace_of_isHexDigit hc
  have hskip : ∀ t : Text, blanks (skipped ++ t) = blanks t := by
    intro t
    simp only [blanks]
    exact List.dropWhile_append_of_pos hskipped
  rw [List.append_assoc, hskip]
  rcases hsign with rfl | rfl | rfl
  · have hminus : c ≠ '-' := by
      rintro rfl
      simp [isHexDigit] at hc
    have hplus : c ≠ '+' := by
      rintro rfl
      simp [isHexDigit] at hc
    exact ⟨false, by simp [blanks, hblank, scanSign, hminus, hplus]⟩
  · have hspace : isSpace '-' = false := by decide
    exact ⟨true, by simp [blanks, hspace, scanSign]⟩
  · have hspace : isSpace '+' = false := by decide
    exact ⟨false, by simp [blanks, hspace, scanSign]⟩

/-- A number is read to its end where neither a digit nor a mark follows. -/
theorem scanHex_field {field : Text} (rest : Text) (h : IsHexField field)
    (hrest : ∀ c ∈ rest.head?, isHexDigit c = false ∧ c ≠ 'x' ∧ c ≠ 'X') :
    ∃ n, scanHex (field ++ rest) = some (n, rest) := by
  rcases h.shape with ⟨skipped, sign, body, rfl, hskipped, hsign, hbody⟩
  rcases scanSign_field hskipped hsign hbody rest with ⟨negative, hscan⟩
  have hstop : ∀ c ∈ rest.head?, isHexDigit c = false := fun c hc => (hrest c hc).1
  simp only [scanHex, hscan]
  cases hbody with
  | plain hne hdigits =>
      have hmark := scanHexMark_digits hne hdigits fun c hc => (hrest c hc).2
      have htake := takeWhile_digits hdigits hstop
      simp [hmark, htake.1, htake.2, hne]
  | @marked x digits hx hdigits =>
      have hmark : scanHexMark ('0' :: x :: digits ++ rest) = (true, digits ++ rest) := by
        simp [scanHexMark, hx]
      have htake := takeWhile_digits hdigits hstop
      simp only [hmark, htake.2, Bool.not_true, Bool.and_false, Bool.false_eq_true, if_false]
      exact ⟨_, rfl⟩

/-- A number is read, whatever follows. -/
theorem scanHex_isSome {field : Text} (h : IsHexField field) (rest : Text) :
    (scanHex (field ++ rest)).isSome = true := by
  rcases h.shape with ⟨skipped, sign, body, rfl, hskipped, hsign, hbody⟩
  rcases scanSign_field hskipped hsign hbody rest with ⟨negative, hscan⟩
  rcases hbody.head with ⟨c, cs, rfl, hc⟩
  simp only [scanHex, hscan]
  unfold scanHexMark
  split
  · simp
  · simp [hc]

theorem scanSign_spec (s : Text) :
    ∃ sign, s = sign ++ (scanSign s).2 ∧ (sign = [] ∨ sign = ['-'] ∨ sign = ['+']) := by
  unfold scanSign
  split
  · next h =>
      rcases List.head?_eq_some_iff.mp h with ⟨t, rfl⟩
      exact ⟨['-'], by simp, by simp⟩
  · split
    · next h =>
        rcases List.head?_eq_some_iff.mp h with ⟨t, rfl⟩
        exact ⟨['+'], by simp, by simp⟩
    · exact ⟨[], by simp, by simp⟩

/-- What is read is a number. -/
theorem scanHex_spec {s rest : Text} {n : BitVec 64} (h : scanHex s = some (n, rest)) :
    ∃ field, s = field ++ rest ∧ IsHexField field := by
  rcases scanSign_spec (blanks s) with ⟨sign, hsplit, hsign⟩
  have hskipped : s = s.takeWhile isSpace ++ blanks s := by
    rw [blanks, List.takeWhile_append_dropWhile]
  simp only [scanHex] at h
  generalize (scanSign (blanks s)).2 = tail at h hsplit
  suffices hbody : ∃ body, tail = body ++ rest ∧ IsHexBody body by
    rcases hbody with ⟨body, rfl, hbody⟩
    refine ⟨s.takeWhile isSpace ++ (sign ++ body), ?_, s.takeWhile isSpace, sign, body, rfl,
      fun c hc => List.mem_takeWhile_imp hc, hsign, hbody⟩
    rw [List.append_assoc, List.append_assoc, ← hsplit]
    exact hskipped
  split at h
  · exact absurd h (by simp)
  · next hread =>
      obtain rfl := (Prod.mk.inj (Option.some.inj h)).2
      by_cases hmark : tail.head? = some '0' ∧
          ((tail.drop 1).head? = some 'x' ∨ (tail.drop 1).head? = some 'X')
      · -- the mark and the digits after it
        have hscan : scanHexMark tail = (true, tail.drop 2) := by rw [scanHexMark, if_pos hmark]
        rcases List.head?_eq_some_iff.mp hmark.1 with ⟨t, rfl⟩
        have hx : ∃ x u, t = x :: u ∧ (x = 'x' ∨ x = 'X') := by
          rcases hmark.2 with hx | hx
          · rcases List.head?_eq_some_iff.mp hx with ⟨u, hu⟩
            exact ⟨'x', u, by simpa using hu, Or.inl rfl⟩
          · rcases List.head?_eq_some_iff.mp hx with ⟨u, hu⟩
            exact ⟨'X', u, by simpa using hu, Or.inr rfl⟩
        rcases hx with ⟨x, u, rfl, hx⟩
        refine ⟨'0' :: x :: u.takeWhile isHexDigit, ?_, .marked hx fun c hc =>
          List.mem_takeWhile_imp hc⟩
        simp [hscan]
      · have hscan : scanHexMark tail = (false, tail) := by rw [scanHexMark, if_neg hmark]
        simp only [hscan, Bool.not_false, Bool.and_true, List.isEmpty_iff] at hread ⊢
        exact ⟨tail.takeWhile isHexDigit, (List.takeWhile_append_dropWhile).symm,
          .plain hread fun c hc => List.mem_takeWhile_imp hc⟩

end CText
