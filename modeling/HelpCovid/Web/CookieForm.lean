import HelpCovid.Web.Cookie

/-!
# Which cookies are accepted

`hcv_web_make_cookie_string` prints one text for an id, a random string and a
hash; `hcv_web_extract_cookie_string` reads many. Both sets are described by
their layout here: `IsCanonicalCookie` is what is printed, `IsLaxCookie` is what
is accepted.
-/

namespace HelpCovid.Web

open CText

/-- What `sscanf` accepts: numbers with blanks, a sign or a `0x`, a random
string of any length up to 24, and anything after the second number. -/
structure IsLaxCookie (str : Text) : Prop where
  long : randomstrWidth + 8 ≤ str.length
  shape : ∃ xid xrandom xhash tail,
    cstr str = ['H', 'C', 'V'] ++ (xid ++ (['-'] ++ (xrandom ++ (['-', 'A'] ++ (xhash ++ tail))))) ∧
      IsHexField xid ∧ xrandom ≠ [] ∧ xrandom.length ≤ randomstrWidth ∧
      (∀ c ∈ xrandom, c.isAlphanum = true) ∧ IsHexField xhash

/-- What is printed for a row: a padded positive id, a whole random string and
eight digits of hash, with nothing after them. -/
structure IsCanonicalCookie (str : Text) : Prop where
  shape : ∃ xid xrandom xhash,
    str = ['H', 'C', 'V'] ++ (xid ++ (['-'] ++ (xrandom ++ (['-', 'A'] ++ xhash)))) ∧
      IsHexPadded 6 xid ∧ 0 < hexNumber xid ∧ hexNumber xid < 2 ^ 63 ∧ IsRandomstr xrandom ∧
      IsHexPadded 8 xhash ∧ xhash.length = 8

/-! ## What is accepted -/

theorem extractCookieString_spec {str : Text} {cookie : Cookie}
    (h : extractCookieString str = some cookie) :
    IsLaxCookie str ∧ ∀ c ∈ cookie.randomstr, c.isAlphanum = true := by
  unfold extractCookieString at h
  split at h
  · exact absurd h (by simp)
  · next hlong =>
      simp only [Option.bind_eq_bind, Option.bind_eq_some_iff, Option.pure_def, Option.some.injEq,
        Prod.exists] at h
      rcases h with ⟨s₁, h₁, xid, s₂, h₂, s₃, h₃, xrandom, s₄, h₄, s₅, h₅, xhash, tail, h₆, rfl⟩
      rcases scanHex_spec h₂ with ⟨fid, hid, hidField⟩
      rcases scanSet_spec h₄ with ⟨hrandom, hne, halnum⟩
      rcases scanHex_spec h₆ with ⟨fhash, hhash, hhashField⟩
      refine ⟨⟨Nat.le_of_not_lt hlong, fid, xrandom, fhash, tail, ?_, hidField, hne,
        length_le_of_scanSet h₄, halnum, hhashField⟩, halnum⟩
      rw [eq_append_of_literal h₁, hid, eq_append_of_literal h₃, hrandom, eq_append_of_literal h₅,
        hhash]

/-- The scan accepts exactly that layout. -/
theorem extractCookieString_isSome_iff (str : Text) :
    (extractCookieString str).isSome = true ↔ IsLaxCookie str := by
  constructor
  · intro h
    rcases Option.isSome_iff_exists.mp h with ⟨cookie, hcookie⟩
    exact (extractCookieString_spec hcookie).1
  · intro h
    rcases h.shape with ⟨xid, xrandom, xhash, tail, hstr, hid, hne, hwidth, halnum, hhash⟩
    have hdash : isHexDigit '-' = false ∧ '-' ≠ 'x' ∧ '-' ≠ 'X' := by decide
    rcases scanHex_field (['-'] ++ (xrandom ++ (['-', 'A'] ++ (xhash ++ tail)))) hid (by
      intro c hc
      obtain rfl : '-' = c := by simpa using hc
      exact hdash) with ⟨id, hscanId⟩
    -- the hyphen ends the random string, however short
    have hscanRandom := scanSet_append
      (['-', 'A'] ++ (xhash ++ tail)) hne halnum hwidth (Or.inr (by
        intro c hc
        obtain rfl : '-' = c := by simpa using hc
        decide))
    rcases Option.isSome_iff_exists.mp (scanHex_isSome hhash tail) with ⟨⟨n, left⟩, hscanHash⟩
    unfold extractCookieString
    rw [if_neg (Nat.not_lt.mpr h.long), hstr]
    simp only [literal_append, Option.bind_eq_bind, Option.bind_some, hscanId, hscanRandom,
      hscanHash]
    rfl

/-! ## What is printed -/

theorem toInt_ofNat_of_lt {n : Nat} (hpos : 0 < n) (hlt : n < 2 ^ 63) :
    0 < (BitVec.ofNat 64 n).toInt := by
  rw [BitVec.toInt_eq_toNat_of_lt (by rw [BitVec.toNat_ofNat]; omega), BitVec.toNat_ofNat]
  omega

/-- A canonical cookie is the text of an id, a random string and a hash. -/
theorem IsCanonicalCookie.eq_cookieText {str : Text} (h : IsCanonicalCookie str) :
    ∃ id randomstr webhash, 0 < BitVec.toInt id ∧ IsRandomstr randomstr ∧
      str = cookieText id randomstr webhash := by
  rcases h.shape with ⟨xid, xrandom, xhash, rfl, hid, hpos, hlt, hrandom, hhash, hlen⟩
  have hidNat : (BitVec.ofNat 64 (hexNumber xid)).toNat = hexNumber xid := by
    rw [BitVec.toNat_ofNat]
    exact Nat.mod_eq_of_lt (hlt.trans (by decide))
  have hhashNat : (BitVec.ofNat 32 (hexNumber xhash)).toNat = hexNumber xhash := by
    have hbound := hexNumber_lt hhash.lower
    rw [hlen] at hbound
    rw [BitVec.toNat_ofNat]
    exact Nat.mod_eq_of_lt (hbound.trans_le (by decide))
  refine ⟨BitVec.ofNat 64 (hexNumber xid), xrandom, BitVec.ofNat 32 (hexNumber xhash),
    toInt_ofNat_of_lt hpos hlt, hrandom, ?_⟩
  rw [cookieText_eq hrandom, hidNat, hhashNat, hexPad_hexNumber (by decide) hid,
    hexPad_hexNumber (by decide) hhash]

theorem isCanonicalCookie_cookieText {id : BitVec 64} {randomstr : Text} (webhash : BitVec 32)
    (hid : 0 < id.toInt) (hrandom : IsRandomstr randomstr) :
    IsCanonicalCookie (cookieText id randomstr webhash) := by
  have hhash : (hexPad 8 webhash.toNat).length ≤ 8 :=
    length_hexPad_le (k := 8) (by decide) (lt_of_lt_of_le webhash.isLt (by decide))
  have hrange : 0 < id.toNat ∧ id.toNat < 2 ^ 63 := by
    rw [BitVec.toInt_eq_toNat_cond] at hid
    have hbound := id.isLt
    split at hid <;> omega
  refine ⟨hexPad 6 id.toNat, randomstr, hexPad 8 webhash.toNat, cookieText_eq hrandom id webhash,
    isHexPadded_hexPad (by decide) _, ?_, ?_, hrandom, isHexPadded_hexPad (by decide) _,
    le_antisymm hhash (le_length_hexPad 8 _)⟩
  · rw [hexNumber_hexPad]
    exact hrange.1
  · rw [hexNumber_hexPad]
    exact hrange.2

/-- **Accepted cookies.** A client's string is either refused or the printed
cookie of what is read from it if and only if it is canonical or does not even
have the layout `sscanf` accepts. -/
theorem extractCookieString_printed_iff (str : Text) :
    (∀ cookie, extractCookieString str = some cookie →
      0 < cookie.id.toInt ∧ cookie.randomstr.length = randomstrWidth ∧
        makeCookieString cookie.id cookie.randomstr cookie.webhash = some str) ↔
      (IsLaxCookie str → IsCanonicalCookie str) := by
  constructor
  · intro h hlax
    rcases Option.isSome_iff_exists.mp ((extractCookieString_isSome_iff str).mpr hlax) with
      ⟨cookie, hcookie⟩
    rcases h cookie hcookie with ⟨hid, hlength, hmake⟩
    have hrandom : IsRandomstr cookie.randomstr := ⟨hlength, (extractCookieString_spec hcookie).2⟩
    rw [makeCookieString_eq cookie.webhash hid hrandom] at hmake
    rw [← Option.some.inj hmake]
    exact isCanonicalCookie_cookieText cookie.webhash hid hrandom
  · intro h cookie hcookie
    have hlax := (extractCookieString_spec hcookie).1
    rcases (h hlax).eq_cookieText with ⟨id, randomstr, webhash, hid, hrandom, hstr⟩
    rw [hstr, extractCookieString_cookieText hrandom] at hcookie
    obtain rfl := Option.some.inj hcookie
    refine ⟨hid, hrandom.length_eq, ?_⟩
    rw [hstr]
    exact makeCookieString_eq webhash hid hrandom

/-- Trailing bytes, a short random string after a negative id, and a number with
blanks, a `0x` and no padding are all accepted. -/
theorem extractCookieString_accepts_other :
    (∃ cookie, extractCookieString "HCV0000ff-0123456789abcdefABCDEFaA-A000000ffzz".toList =
        some cookie ∧
      makeCookieString cookie.id cookie.randomstr cookie.webhash =
        some "HCV0000ff-0123456789abcdefABCDEFaA-A000000ff".toList) ∧
    (∃ cookie, extractCookieString "HCV-1-short-A1 and anything else".toList = some cookie ∧
      cookie.id.toInt = -1 ∧ cookie.randomstr.length = 5) ∧
    ∃ cookie, extractCookieString "HCV +0xff-0123456789abcdefABCDEFaA-A 1".toList = some cookie ∧
      makeCookieString cookie.id cookie.randomstr cookie.webhash =
        some "HCV0000ff-0123456789abcdefABCDEFaA-A00000001".toList := by
  refine ⟨⟨⟨255, "0123456789abcdefABCDEFaA".toList, 255⟩, ?_, ?_⟩,
    ⟨⟨-1, "short".toList, 1⟩, ?_, ?_, ?_⟩,
    ⟨⟨255, "0123456789abcdefABCDEFaA".toList, 1⟩, ?_, ?_⟩⟩ <;> decide +kernel

end HelpCovid.Web
