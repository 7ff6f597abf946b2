import HelpCovid.Lib.Hex

/-!
# Cookie values

A cookie sent to a browser holds the row of `tb_web_cookie` it belongs to, the
random string stored there and a hash of the user agent, as
`HCV%06lx-%24s-A%08x`. `hcv_web_make_cookie_string` prints it into a buffer of
64 bytes and `hcv_web_extract_cookie_string` reads it back with `sscanf`.
-/

namespace HelpCovid.Web

open CText

/-- `HCV_WEBCOOKIE_RANDOMSTR_WIDTH` -/
def randomstrWidth : Nat := 24

/-- What `hcv_web_extract_cookie_string` stores through its pointers. -/
structure Cookie where
  id : BitVec 64
  randomstr : Text
  webhash : BitVec 32
deriving Repr, DecidableEq

/-- `%Ns`: blanks on the left, no limit on the right. -/
def padLeft (width : Nat) (s : Text) : Text := List.replicate (width - s.length) ' ' ++ s

/-- The text of the format `"HCV%06lx-%24s-A%08x"`. -/
def cookieText (id : BitVec 64) (randomstr : Text) (webhash : BitVec 32) : Text :=
  ['H', 'C', 'V'] ++ (hexPad 6 id.toNat ++ (['-'] ++ (padLeft randomstrWidth (cstr randomstr) ++
    (['-', 'A'] ++ hexPad 8 webhash.toNat))))

/-- `sizeof(buf)` -/
def cookieBufferSize : Nat := 64

/-- `hcv_web_make_cookie_string`: `none` when the assertion on the id aborts. The
buffer keeps one byte for the terminating NUL. -/
def makeCookieString (id : BitVec 64) (randomstr : Text) (webhash : BitVec 32) : Option Text :=
  if 0 < id.toInt then
    some (cstr ((cookieText id randomstr webhash).take (cookieBufferSize - 1)))
  else none

/-- `hcv_web_extract_cookie_string` -/
def extractCookieString (str : Text) : Option Cookie :=
  if str.length < randomstrWidth + 8 then none
  else do
    let rest ← literal ['H', 'C', 'V'] (cstr str)
    let (xid, rest) ← scanHex rest
    let rest ← literal ['-'] rest
    let (xrandombuf, rest) ← scanSet randomstrWidth Char.isAlphanum rest
    let rest ← literal ['-', 'A'] rest
    let (xhash, _) ← scanHex rest
    return ⟨xid, xrandombuf, xhash.setWidth 32⟩

/-- A random string as `hcv_web_register_fresh_cookie` makes it. -/
structure IsRandomstr (s : Text) : Prop where
  length_eq : s.length = randomstrWidth
  alphanum : ∀ c ∈ s, c.isAlphanum = true

theorem IsRandomstr.noNul {s : Text} (h : IsRandomstr s) : '\x00' ∉ s := by
  intro hmem
  exact absurd (h.alphanum _ hmem) (by decide)

theorem padLeft_of_length {width : Nat} {s : Text} (h : s.length = width) :
    padLeft width s = s := by
  simp [padLeft, h]

theorem cookieText_eq {s : Text} (h : IsRandomstr s) (id : BitVec 64) (webhash : BitVec 32) :
    cookieText id s webhash =
      ['H', 'C', 'V'] ++ (hexPad 6 id.toNat ++ (['-'] ++ (s ++
        (['-', 'A'] ++ hexPad 8 webhash.toNat)))) := by
  rw [cookieText, cstr_of_notMem h.noNul, padLeft_of_length h.length_eq]

/-- The text fits in the buffer and is long enough to be read. -/
theorem cookieText_length {s : Text} (h : IsRandomstr s) (id : BitVec 64) (webhash : BitVec 32) :
    (cookieText id s webhash).length < cookieBufferSize ∧
      randomstrWidth + 8 ≤ (cookieText id s webhash).length := by
  have hid : (hexPad 6 id.toNat).length ≤ 16 :=
    length_hexPad_le (k := 16) (by decide) (lt_of_lt_of_le id.isLt (by decide))
  have hhash : (hexPad 8 webhash.toNat).length ≤ 8 :=
    length_hexPad_le (k := 8) (by decide) (lt_of_lt_of_le webhash.isLt (by decide))
  have hhash' := le_length_hexPad 8 webhash.toNat
  rw [cookieText_eq h]
  simp only [List.length_append, List.length_cons, List.length_nil, h.length_eq, randomstrWidth,
    cookieBufferSize]
  omega

theorem cookieText_noNul {s : Text} (h : IsRandomstr s) (id : BitVec 64) (webhash : BitVec 32) :
    '\x00' ∉ cookieText id s webhash := by
  have hhex : ∀ width n, '\x00' ∉ hexPad width n := by
    intro width n hmem
    exact absurd (isHexDigit_hexPad width n _ hmem) (by decide)
  rw [cookieText_eq h]
  simp [hhex, h.noNul]

/-- What was printed is read back. -/
theorem extractCookieString_cookieText {s : Text} (h : IsRandomstr s) (id : BitVec 64)
    (webhash : BitVec 32) :
    extractCookieString (cookieText id s webhash) = some ⟨id, s, webhash⟩ := by
  have hlong := Nat.not_lt.mpr (cookieText_length h id webhash).2
  have hid : scanHex (hexPad 6 id.toNat ++ (['-'] ++ (s ++ (['-', 'A'] ++
      hexPad 8 webhash.toNat)))) = some (id, ['-'] ++ (s ++ (['-', 'A'] ++
      hexPad 8 webhash.toNat))) := by
    rw [scanHex_hexPad 6 _ id.isLt]
    · rw [BitVec.ofNat_toNat, BitVec.setWidth_eq]
    · intro c hc
      obtain rfl : '-' = c := by simpa using hc
      decide
  -- the field is as wide as its conversion allows, so the scan stops there
  have hrandom : scanSet randomstrWidth Char.isAlphanum (s ++ (['-', 'A'] ++
      hexPad 8 webhash.toNat)) = some (s, ['-', 'A'] ++ hexPad 8 webhash.toNat) := by
    have hne : s ≠ [] := by
      rintro rfl
      exact absurd h.length_eq (by decide)
    exact scanSet_append _ hne h.alphanum (le_of_eq h.length_eq) (Or.inl h.length_eq)
  have hhash : scanHex (hexPad 8 webhash.toNat) =
      some (BitVec.ofNat 64 webhash.toNat, []) := by
    have hlt : webhash.toNat < 2 ^ 64 := lt_of_lt_of_le webhash.isLt (by decide)
    have hscan := scanHex_hexPad 8 [] hlt (by simp)
    rwa [List.append_nil] at hscan
  have htrunc : (BitVec.ofNat 64 webhash.toNat).setWidth 32 = webhash := by
    apply BitVec.eq_of_toNat_eq
    have := webhash.isLt
    simp
  unfold extractCookieString
  rw [if_neg hlong, cstr_of_notMem (cookieText_noNul h id webhash), cookieText_eq h]
  simp only [literal_append, Option.bind_eq_bind, Option.bind_some, hid, hrandom, hhash, htrunc]
  rfl

/-- The buffer does not truncate the cookie of a row. -/
theorem makeCookieString_eq {id : BitVec 64} {randomstr : Text} (webhash : BitVec 32)
    (hid : 0 < id.toInt) (hrandom : IsRandomstr randomstr) :
    makeCookieString id randomstr webhash = some (cookieText id randomstr webhash) := by
  have hfits : (cookieText id randomstr webhash).length ≤ cookieBufferSize - 1 :=
    Nat.le_sub_one_of_lt (cookieText_length hrandom id webhash).1
  rw [makeCookieString, if_pos hid, List.take_of_length_le hfits,
    cstr_of_notMem (cookieText_noNul hrandom id webhash)]

/-- **Round trip.** The cookie of a row is not truncated by the buffer and gives
back the id, the random string and the hash. -/
theorem extract_makeCookieString {id : BitVec 64} {randomstr : Text} (webhash : BitVec 32)
    (hid : 0 < id.toInt) (hrandom : IsRandomstr randomstr) :
    makeCookieString id randomstr webhash = some (cookieText id randomstr webhash) ∧
      (makeCookieString id randomstr webhash).bind extractCookieString =
        some ⟨id, randomstr, webhash⟩ := by
  have hmake := makeCookieString_eq webhash hid hrandom
  refine ⟨hmake, ?_⟩
  rw [hmake, Option.bind_some]
  exact extractCookieString_cookieText hrandom id webhash

/-- A cookie with a negative hash. -/
theorem extract_makeCookieString_negative :
    makeCookieString 255 "0123456789abcdefABCDEFaA".toList (-1) =
        some (cookieText 255 "0123456789abcdefABCDEFaA".toList (-1)) ∧
      (makeCookieString 255 "0123456789abcdefABCDEFaA".toList (-1)).bind extractCookieString =
        some ⟨255, "0123456789abcdefABCDEFaA".toList, -1⟩ :=
  extract_makeCookieString (-1) (by decide) ⟨by decide, List.all_eq_true.mp (by decide)⟩

end HelpCovid.Web
