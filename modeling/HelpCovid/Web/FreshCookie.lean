import HelpCovid.Web.Cookie

/-!
# Registering a fresh cookie

`hcv_web_register_fresh_cookie` draws a random string, has a row inserted in
`tb_web_cookie`, prints the cookie of that row and sets it as a header of the
response. A fault of the database reaches it as a negative id, which
`hcv_web_make_cookie_string` asserts away: the process is aborted where the
caller could have gone on without a cookie.

The generator is a sequence of bytes and the number of those it gave so far. The
loop that avoids the digit zero takes a bound on its rounds.
-/

namespace HelpCovid.Web

open CText

/-! ## The random string -/

/-- `alphanumchars` -/
def alphanumchars : List Char :=
  "0123456789abcdefghijklmnopqrstuvwxyzABCDEFGHIJKLMNOPQRSTUVWXYZ".toList

/-- `nbalphanum` -/
def nbalphanum : Nat := 62

/-- The `static_assert` on the size. -/
theorem length_alphanumchars : alphanumchars.length = nbalphanum := by decide

/-- `alphanumchars[byte % nbalphanum]` -/
def alphanumchar (byte : UInt8) : Char :=
  alphanumchars.get ⟨byte.toNat % nbalphanum, by
    rw [length_alphanumchars]
    exact Nat.mod_lt _ (by decide)⟩

variable (bytes : Nat → UInt8)

/-- `while (uc == '0')`: draws again, at most `fuel` times. -/
def redraw : (fuel : Nat) → (uc : Char) → (drawn : Nat) → Option (Char × Nat)
  | 0, uc, drawn => if uc == '0' then none else some (uc, drawn)
  | fuel + 1, uc, drawn =>
    if uc == '0' then redraw fuel (alphanumchar (bytes drawn)) (drawn + 1)
    else some (uc, drawn)

/-- The character for position `ix`; zeros are refused at the odd ones. -/
def drawChar (fuel ix drawn : Nat) : Option (Char × Nat) :=
  let uc := alphanumchar (bytes drawn)
  if ix % 2 = 1 then redraw bytes fuel uc (drawn + 1) else some (uc, drawn + 1)

/-- The characters from position `ix` on, `count` of them. -/
def drawRandombuf (fuel : Nat) : (count ix drawn : Nat) → Option (Text × Nat)
  | 0, _, drawn => some ([], drawn)
  | count + 1, ix, drawn => do
    let (uc, drawn) ← drawChar bytes fuel ix drawn
    let (rest, drawn) ← drawRandombuf fuel count (ix + 1) drawn
    return (uc :: rest, drawn)

/-! ## The insertion -/

/-- A row of `tb_web_cookie`. -/
structure WebCookieRow where
  wcookieId : BitVec 64
  wcookieRandom : Text
  wcookieExptime : Nat
  wcookieWebagenthash : BitVec 32
deriving Repr, DecidableEq

/-- What the two statements of the insertion come to. -/
inductive Insertion where
  /-- a row was inserted and `LASTVAL()` gives its id -/
  | stored (id : BitVec 64)
  /-- the result has no row -/
  | noRow
  /-- an exception; the transaction is rolled back -/
  | exception
deriving Repr, DecidableEq

/-- Why the process is aborted. -/
inductive Abort where
  | assertion
  | fatal
deriving Repr, DecidableEq

/-- `hcv_database_get_id_of_added_web_cookie`: the id and the table. -/
def getIdOfAddedWebCookie (insertion : Insertion) (rows : List WebCookieRow) (randomstr : Text)
    (exptime : Nat) (webagenthash : BitVec 32) :
    Except Abort (BitVec 64 × List WebCookieRow) :=
  if randomstr.isEmpty then .error .assertion
  else match insertion with
    | .stored id => .ok (id, rows ++ [⟨id, randomstr, exptime, webagenthash⟩])
    | .noRow => .ok (-1, rows)
    | .exception => .ok (-2, rows)

/-! ## The header -/

/-- The headers of a request or a response, in the order they were set. -/
abbrev Headers := List (Text × Text)

/-- `headers.find(key)`, which does not look at the case of letters. -/
def findHeader (key : Text) (headers : Headers) : Option Text :=
  (headers.find? fun h => h.1.map Char.toLower == key.map Char.toLower).map Prod.snd

/-- `httplib::detail::has_crlf` -/
def hasCrlf (s : Text) : Bool := (cstr s).any fun c => c == '\r' || c == '\n'

/-- `httplib::Response::set_header` -/
def setHeader (key val : Text) (headers : Headers) : Headers :=
  if !hasCrlf key && !hasCrlf val then headers ++ [(key, val)] else headers

/-- The template data of a page; the pointers may be null. -/
structure HttpTemplateData where
  request : Option Headers
  response : Option Headers
deriving Repr, DecidableEq

/-- `hcv_web_cookie_duration` -/
def webCookieDuration : Nat := 5400

/-- What is left when the function has returned. -/
structure Registered where
  cookie : Text
  response : Option Headers
  rows : List WebCookieRow
deriving Repr, DecidableEq

/-- What the process takes from outside: `std::hash` of a string and the clock,
`none` when `time(2)` fails. -/
structure Surroundings where
  stdHash : Text → BitVec 64
  clock : Option Nat

/-- The hash of the agent, an `int`; zero is for no agent. -/
def webagentHash (around : Surroundings) (webagentstr : Text) : BitVec 32 :=
  if !webagentstr.isEmpty then
    let hash := (around.stdHash webagentstr).setWidth 32
    if hash = 0 then BitVec.ofNat 32 webagentstr.length else hash
  else 0

/-- `HCV_COOKIE_NAME "="` -/
def cookieNameEq : Text := "HelpCovid_COOKIE=".toList

/-- `agebuf` -/
def agebuf : Text := "; Max-Age=5400".toList

/-- `cookiestr`, the value of the header. -/
def cookieHeader (res : Text) : Text := cookieNameEq ++ res ++ agebuf

/-- `hcv_web_register_fresh_cookie`: `none` when the rounds did not suffice to
draw the random string. -/
def registerFreshCookie (around : Surroundings) (fuel : Nat) (htpl : Option HttpTemplateData)
    (insertion : Insertion) (rows : List WebCookieRow) : Option (Except Abort Registered) :=
  match htpl with
  | none => some (.ok ⟨[], none, rows⟩)
  | some ⟨none, response⟩ => some (.ok ⟨[], response, rows⟩)
  | some ⟨some _, none⟩ => some (.ok ⟨[], none, rows⟩)
  | some ⟨some request, some response⟩ =>
    let webagentstr := (findHeader "User-Agent".toList request).getD []
    (drawRandombuf bytes fuel randomstrWidth 0 0).map fun (randombuf, _) =>
      match around.clock with
      | none => .error .fatal
      | some now => do
        let hash := webagentHash around webagentstr
        let (id, rows) ←
          getIdOfAddedWebCookie insertion rows randombuf (now + webCookieDuration) hash
        match makeCookieString id randombuf hash with
        | none => .error .assertion
        | some res =>
          return ⟨res, some (setHeader "Set-Cookie".toList (cookieHeader res) response), rows⟩

/-! ## What is promised -/

/-- The insertion gave a positive id. -/
def GivesId (insertion : Insertion) (id : BitVec 64) : Prop :=
  insertion = .stored id ∧ 0 < id.toInt

/-- The cookie that a header value carries. -/
def cookieOf (header : Text) : Option Cookie :=
  extractCookieString ((header.drop cookieNameEq.length).takeWhile (· != ';'))

/-- What has to be true after the return: a header for a positive id, carrying the
row that was stored, and no header otherwise. -/
structure CookieSet (insertion : Insertion) (response : Headers) (rows : List WebCookieRow)
    (reg : Registered) : Prop where
  positive : ∀ id, GivesId insertion id → ∃ header row,
    reg.response = some (response ++ [("Set-Cookie".toList, header)]) ∧
      reg.rows = rows ++ [row] ∧ row.wcookieId = id ∧
      cookieOf header = some ⟨id, row.wcookieRandom, row.wcookieWebagenthash⟩
  otherwise : (∀ id, ¬ GivesId insertion id) → reg.response = some response

/-- The function returns, and with what it should. -/
def FreshCookieCorrect (around : Surroundings) (request response : Headers)
    (insertion : Insertion) (rows : List WebCookieRow) : Prop :=
  ∃ fuel reg,
    registerFreshCookie bytes around fuel (some ⟨some request, some response⟩) insertion rows =
      some (.ok reg) ∧ CookieSet insertion response rows reg

/-- From the byte `drawn` on the string can be drawn, two characters at a time:
after one byte there is one that is not a multiple of 62. -/
def Drawable : (pairs drawn : Nat) → Prop
  | 0, _ => True
  | pairs + 1, drawn => ∃ j, drawn < j ∧ (bytes j).toNat % nbalphanum ≠ 0 ∧
      (∀ m, drawn < m → m < j → (bytes m).toNat % nbalphanum = 0) ∧ Drawable pairs (j + 1)

/-! ## Drawing -/

theorem isAlphanum_alphanumchar (byte : UInt8) : (alphanumchar byte).isAlphanum = true := by
  have hall : ∀ c ∈ alphanumchars, c.isAlphanum = true := List.all_eq_true.mp (by decide)
  exact hall _ (List.get_mem _ _)

theorem alphanumchar_eq_zero_iff (byte : UInt8) :
    alphanumchar byte = '0' ↔ byte.toNat % nbalphanum = 0 := by
  have hnodup : alphanumchars.Nodup := by decide
  have hzero : alphanumchars.get ⟨0, by decide⟩ = '0' := by decide
  rw [alphanumchar, ← hzero, hnodup.get_inj_iff, Fin.mk.injEq]

theorem redraw_of_ne {fuel drawn : Nat} {uc : Char} (h : uc ≠ '0') :
    redraw bytes fuel uc drawn = some (uc, drawn) := by
  cases fuel with
  | zero => rw [redraw, if_neg (mt beq_iff_eq.mp h)]
  | succ fuel => rw [redraw, if_neg (mt beq_iff_eq.mp h)]

/-- The rounds end at the first byte that does not give the digit zero. -/
theorem redraw_iff (fuel drawn : Nat) (c : Char) (drawn' : Nat) :
    redraw bytes fuel (alphanumchar (bytes drawn)) (drawn + 1) = some (c, drawn') ↔
      ∃ j, drawn ≤ j ∧ j ≤ drawn + fuel ∧ (bytes j).toNat % nbalphanum ≠ 0 ∧
        (∀ m, drawn ≤ m → m < j → (bytes m).toNat % nbalphanum = 0) ∧
        c = alphanumchar (bytes j) ∧ drawn' = j + 1 := by
  induction fuel generalizing drawn with
  | zero =>
    by_cases hmod : (bytes drawn).toNat % nbalphanum = 0
    · rw [redraw, if_pos (beq_iff_eq.mpr ((alphanumchar_eq_zero_iff _).mpr hmod))]
      refine iff_of_false (by simp) ?_
      rintro ⟨j, hle, hge, hj, -⟩
      obtain rfl : j = drawn := by omega
      exact hj hmod
    · rw [redraw_of_ne bytes (mt (alphanumchar_eq_zero_iff _).mp hmod), Option.some.injEq,
        Prod.mk.injEq]
      constructor
      · rintro ⟨rfl, rfl⟩
        exact ⟨drawn, by omega, by omega, hmod, by omega, rfl, rfl⟩
      · rintro ⟨j, hle, hge, -, -, rfl, rfl⟩
        obtain rfl : j = drawn := by omega
        exact ⟨rfl, rfl⟩
  | succ fuel ih =>
    by_cases hmod : (bytes drawn).toNat % nbalphanum = 0
    · rw [redraw, if_pos (beq_iff_eq.mpr ((alphanumchar_eq_zero_iff _).mpr hmod)), ih]
      constructor
      · rintro ⟨j, hle, hge, hj, hbefore, rfl, rfl⟩
        refine ⟨j, by omega, by omega, hj, ?_, rfl, rfl⟩
        intro m hm hmj
        rcases Nat.eq_or_lt_of_le hm with rfl | hm
        · exact hmod
        · exact hbefore m hm hmj
      · rintro ⟨j, hle, hge, hj, hbefore, rfl, rfl⟩
        have hne : j ≠ drawn := by
          rintro rfl
          exact hj hmod
        exact ⟨j, by omega, by omega, hj, fun m hm hmj => hbefore m (by omega) hmj, rfl, rfl⟩
    · rw [redraw_of_ne bytes (mt (alphanumchar_eq_zero_iff _).mp hmod), Option.some.injEq,
        Prod.mk.injEq]
      constructor
      · rintro ⟨rfl, rfl⟩
        exact ⟨drawn, by omega, by omega, hmod, by omega, rfl, rfl⟩
      · rintro ⟨j, hle, -, -, hbefore, rfl, rfl⟩
        -- a later byte is not looked at
        have hj : j = drawn := by
          by_contra hne
          exact hmod (hbefore drawn (by omega) (by omega))
        exact ⟨by rw [hj], by rw [hj]⟩

/-- What one position and the rest come to. -/
theorem drawRandombuf_succ (fuel count ix drawn : Nat) {text : Text} {drawn' : Nat}
    (h : drawRandombuf bytes fuel (count + 1) ix drawn = some (text, drawn')) :
    ∃ uc drawn₁ rest,
      drawChar bytes fuel ix drawn = some (uc, drawn₁) ∧
      drawRandombuf bytes fuel count (ix + 1) drawn₁ = some (rest, drawn') ∧
      text = uc :: rest := by
  rw [drawRandombuf] at h
  rcases Option.bind_eq_some_iff.mp h with ⟨⟨uc, drawn₁⟩, huc, h⟩
  rcases Option.bind_eq_some_iff.mp h with ⟨⟨rest, drawn₂⟩, hrest, h⟩
  obtain ⟨rfl, rfl⟩ : uc :: rest = text ∧ drawn₂ = drawn' := by simpa using h
  exact ⟨uc, drawn₁, rest, huc, hrest, rfl⟩

/-- What is drawn is as long as it should be, of letters and digits. -/
theorem drawRandombuf_text {fuel count ix drawn : Nat} {text : Text} {drawn' : Nat}
    (h : drawRandombuf bytes fuel count ix drawn = some (text, drawn')) :
    text.length = count ∧ ∀ c ∈ text, c.isAlphanum = true := by
  induction count generalizing ix drawn text with
  | zero =>
    obtain ⟨rfl, rfl⟩ : [] = text ∧ drawn = drawn' := by simpa [drawRandombuf] using h
    simp
  | succ count ih =>
    rcases drawRandombuf_succ bytes fuel count ix drawn h with ⟨uc, drawn₁, rest, huc, hrest, rfl⟩
    rcases ih hrest with ⟨hlength, halnum⟩
    have hfirst : uc.isAlphanum = true := by
      unfold drawChar at huc
      split at huc
      · rcases (redraw_iff bytes _ _ _ _).mp huc with ⟨j, -, -, -, -, rfl, -⟩
        exact isAlphanum_alphanumchar _
      · obtain ⟨rfl, -⟩ : alphanumchar (bytes drawn) = uc ∧ drawn + 1 = drawn₁ := by simpa using huc
        exact isAlphanum_alphanumchar _
    refine ⟨by rw [List.length_cons, hlength], ?_⟩
    intro c hc
    rcases List.mem_cons.mp hc with rfl | hc
    · exact hfirst
    · exact halnum c hc

theorem isRandomstr_of_draw {fuel : Nat} {text : Text} {drawn : Nat}
    (h : drawRandombuf bytes fuel randomstrWidth 0 0 = some (text, drawn)) : IsRandomstr text :=
  have htext := drawRandombuf_text bytes h
  ⟨htext.1, htext.2⟩

/-- A string that was drawn could be drawn. -/
theorem drawable_of_draw {fuel pairs ix drawn : Nat} (hix : ix % 2 = 0) {text : Text}
    {drawn' : Nat} (h : drawRandombuf bytes fuel (2 * pairs) ix drawn = some (text, drawn')) :
    Drawable bytes pairs drawn := by
  induction pairs generalizing ix drawn text with
  | zero => trivial
  | succ pairs ih =>
    obtain ⟨uc, drawn₁, rest, huc, hrest, -⟩ :=
      drawRandombuf_succ bytes fuel (2 * pairs + 1) ix drawn h
    rw [drawChar, if_neg (by omega)] at huc
    obtain ⟨rfl, rfl⟩ : alphanumchar (bytes drawn) = uc ∧ drawn + 1 = drawn₁ := by simpa using huc
    obtain ⟨uc', drawn₂, rest', huc', hrest', -⟩ :=
      drawRandombuf_succ bytes fuel (2 * pairs) (ix + 1) (drawn + 1) hrest
    rw [drawChar, if_pos (by omega)] at huc'
    rcases (redraw_iff bytes _ _ _ _).mp huc' with ⟨j, hle, -, hj, hbefore, -, rfl⟩
    exact ⟨j, by omega, hj, fun m hm hmj => hbefore m (by omega) hmj, ih (by omega) hrest'⟩

/-- With enough rounds the string is drawn. -/
theorem draw_of_drawable {pairs ix drawn : Nat} (hix : ix % 2 = 0)
    (h : Drawable bytes pairs drawn) :
    ∃ enough, ∀ fuel, enough ≤ fuel →
      ∃ text drawn', drawRandombuf bytes fuel (2 * pairs) ix drawn = some (text, drawn') := by
  induction pairs generalizing ix drawn with
  | zero => exact ⟨0, fun _ _ => ⟨[], drawn, rfl⟩⟩
  | succ pairs ih =>
    rcases h with ⟨j, hlt, hj, hbefore, hrest⟩
    rcases @ih (ix + 2) (j + 1) (by omega) hrest with ⟨enough, hdraws⟩
    refine ⟨max enough j, fun fuel hfuel => ?_⟩
    rcases hdraws fuel (by omega) with ⟨text, drawn', hdraw⟩
    have hredraw : redraw bytes fuel (alphanumchar (bytes (drawn + 1))) (drawn + 1 + 1) =
        some (alphanumchar (bytes j), j + 1) :=
      (redraw_iff bytes _ _ _ _).mpr
        ⟨j, by omega, by omega, hj, fun m hm hmj => hbefore m (by omega) hmj, rfl, rfl⟩
    refine ⟨alphanumchar (bytes drawn) :: alphanumchar (bytes j) :: text, drawn', ?_⟩
    show drawRandombuf bytes fuel (2 * pairs + 1 + 1) ix drawn = _
    have hfirst : drawChar bytes fuel ix drawn = some (alphanumchar (bytes drawn), drawn + 1) := by
      rw [drawChar, if_neg (by omega)]
    have hsecond : drawChar bytes fuel (ix + 1) (drawn + 1) =
        some (alphanumchar (bytes j), j + 1) := by
      rw [drawChar, if_pos (by omega), hredraw]
    simp only [drawRandombuf, hfirst, hsecond, hdraw, Option.bind_eq_bind, Option.bind_some]
    rfl

/-! ## The cookie of the header -/

theorem notMem_cookieText {s : Text} (h : IsRandomstr s) (id : BitVec 64) (webhash : BitVec 32)
    {d : Char} (halnum : d.isAlphanum ≠ true) (hhex : isHexDigit d ≠ true) (hdash : d ≠ '-') :
    d ∉ cookieText id s webhash := by
  have hpad : ∀ width n, d ∉ hexPad width n := by
    intro width n hmem
    exact hhex (isHexDigit_hexPad width n d hmem)
  have hletters : d ∉ ['H', 'C', 'V'] ∧ d ≠ 'A' := by
    refine ⟨?_, ?_⟩
    · intro hmem
      simp only [List.mem_cons, List.not_mem_nil, or_false] at hmem
      rcases hmem with rfl | rfl | rfl
      · exact halnum (by decide)
      · exact halnum (by decide)
      · exact halnum (by decide)
    · rintro rfl
      exact halnum (by decide)
  have hs : d ∉ s := fun hmem => halnum (h.alphanum d hmem)
  rw [cookieText_eq h]
  simp only [List.mem_append, not_or, List.mem_cons, List.not_mem_nil, not_false_eq_true,
    and_true]
  simp only [List.mem_cons, List.not_mem_nil, or_false, not_or] at hletters
  exact ⟨hletters.1, hpad _ _, hdash, hs, ⟨hdash, hletters.2⟩, hpad _ _⟩

theorem hasCrlf_eq_false {s : Text} (hcr : '\r' ∉ s) (hlf : '\n' ∉ s) : hasCrlf s = false := by
  rw [hasCrlf, List.any_eq_false]
  intro c hc
  have hmem : c ∈ s := (List.takeWhile_prefix _).subset hc
  rw [Bool.or_eq_true, beq_iff_eq, beq_iff_eq]
  rintro (rfl | rfl)
  · exact hcr hmem
  · exact hlf hmem

/-- The header can be set. -/
theorem setHeader_cookieText {s : Text} (h : IsRandomstr s) (id : BitVec 64)
    (webhash : BitVec 32) (response : Headers) :
    setHeader "Set-Cookie".toList (cookieHeader (cookieText id s webhash)) response =
      response ++ [("Set-Cookie".toList, cookieHeader (cookieText id s webhash))] := by
  have hnotMem : ∀ d, d ∉ cookieNameEq → d ∉ cookieText id s webhash → d ∉ agebuf →
      d ∉ cookieHeader (cookieText id s webhash) := by
    intro d hname htext hage
    simp only [cookieHeader, List.mem_append, not_or]
    exact ⟨⟨hname, htext⟩, hage⟩
  have hcr := hnotMem '\r' (by decide)
    (notMem_cookieText h id webhash (by decide) (by decide) (by decide)) (by decide)
  have hlf := hnotMem '\n' (by decide)
    (notMem_cookieText h id webhash (by decide) (by decide) (by decide)) (by decide)
  have hkey : hasCrlf "Set-Cookie".toList = false := by decide
  rw [setHeader, hkey, hasCrlf_eq_false hcr hlf]
  rfl

/-- The header gives the cookie back. -/
theorem cookieOf_cookieHeader {s : Text} (h : IsRandomstr s) (id : BitVec 64)
    (webhash : BitVec 32) :
    cookieOf (cookieHeader (cookieText id s webhash)) = some ⟨id, s, webhash⟩ := by
  have hsemi : ∀ c ∈ cookieText id s webhash, (c != ';') = true := by
    intro c hc
    rw [bne_iff_ne]
    rintro rfl
    exact notMem_cookieText h id webhash (by decide) (by decide) (by decide) hc
  have hend : agebuf.takeWhile (· != ';') = [] := by decide
  rw [cookieOf, cookieHeader, List.append_assoc, List.drop_left,
    List.takeWhile_append_of_pos hsemi, hend, List.append_nil]
  exact extractCookieString_cookieText h id webhash

/-! ## The whole function -/

section Register

variable {bytes} {around : Surroundings} {fuel : Nat} {request response : Headers}
  {insertion : Insertion} {rows : List WebCookieRow}

/-- What follows the draw. -/
theorem registerFreshCookie_of_draw (response : Headers) {text : Text} {drawn now : Nat}
    (hdraw : drawRandombuf bytes fuel randomstrWidth 0 0 = some (text, drawn))
    (hclock : around.clock = some now) {id : BitVec 64} {rows' : List WebCookieRow}
    (hinsert : getIdOfAddedWebCookie insertion rows text (now + webCookieDuration)
      (webagentHash around ((findHeader "User-Agent".toList request).getD [])) =
        .ok (id, rows')) :
    registerFreshCookie bytes around fuel (some ⟨some request, some response⟩) insertion rows =
      some (match makeCookieString id text
          (webagentHash around ((findHeader "User-Agent".toList request).getD [])) with
        | none => .error .assertion
        | some res =>
          .ok ⟨res, some (setHeader "Set-Cookie".toList (cookieHeader res) response), rows'⟩) := by
  rw [registerFreshCookie, hdraw, Option.map_some]
  simp only [hclock, hinsert]
  rfl

theorem registerFreshCookie_of_clock {text : Text} {drawn : Nat}
    (hdraw : drawRandombuf bytes fuel randomstrWidth 0 0 = some (text, drawn))
    (hclock : around.clock = none) :
    registerFreshCookie bytes around fuel (some ⟨some request, some response⟩) insertion rows =
      some (.error .fatal) := by
  rw [registerFreshCookie, hdraw, Option.map_some]
  simp only [hclock]

/-- The id that the caller gets. -/
def givenId : Insertion → BitVec 64
  | .stored id => id
  | .noRow => -1
  | .exception => -2

/-- A fault of the database gives no positive id. -/
theorem givenId_pos_iff (insertion : Insertion) :
    0 < (givenId insertion).toInt ↔ ∃ id, GivesId insertion id := by
  constructor
  · intro hpos
    cases insertion with
    | stored id => exact ⟨id, rfl, hpos⟩
    | noRow => exact absurd hpos (by decide)
    | exception => exact absurd hpos (by decide)
  · rintro ⟨id, rfl, hpos⟩
    exact hpos

theorem getIdOfAddedWebCookie_of_random (insertion : Insertion) (rows : List WebCookieRow)
    {text : Text} (h : IsRandomstr text) (exptime : Nat) (webagenthash : BitVec 32) :
    ∃ rows', getIdOfAddedWebCookie insertion rows text exptime webagenthash =
        .ok (givenId insertion, rows') ∧
      (∀ id, GivesId insertion id → rows' = rows ++ [⟨id, text, exptime, webagenthash⟩]) := by
  have hne : ¬ text.isEmpty = true := by
    rw [List.isEmpty_iff]
    rintro rfl
    exact absurd h.length_eq (by decide)
  unfold getIdOfAddedWebCookie
  rw [if_neg hne]
  cases insertion with
  | stored id =>
    refine ⟨_, rfl, ?_⟩
    intro id' hid'
    rw [Insertion.stored.inj hid'.1]
  | noRow =>
    refine ⟨_, rfl, ?_⟩
    rintro _ ⟨hstored, -⟩
    cases hstored
  | exception =>
    refine ⟨_, rfl, ?_⟩
    rintro _ ⟨hstored, -⟩
    cases hstored

/-- Without a positive id the assertion aborts the process. -/
theorem registerFreshCookie_aborts {text : Text} {drawn now : Nat}
    (hdraw : drawRandombuf bytes fuel randomstrWidth 0 0 = some (text, drawn))
    (hclock : around.clock = some now) (hno : ¬ ∃ id, GivesId insertion id) :
    registerFreshCookie bytes around fuel (some ⟨some request, some response⟩) insertion rows =
      some (.error .assertion) := by
  obtain ⟨rows', hinsert, -⟩ :=
    getIdOfAddedWebCookie_of_random insertion rows (isRandomstr_of_draw bytes hdraw)
      (now + webCookieDuration)
      (webagentHash around ((findHeader "User-Agent".toList request).getD []))
  have hid := mt (givenId_pos_iff insertion).mp hno
  rw [registerFreshCookie_of_draw response hdraw hclock hinsert, makeCookieString, if_neg hid]

/-- What a return means. -/
theorem registerFreshCookie_ok {reg : Registered}
    (h : registerFreshCookie bytes around fuel (some ⟨some request, some response⟩) insertion rows =
      some (.ok reg)) :
    (∃ text drawn, drawRandombuf bytes fuel randomstrWidth 0 0 = some (text, drawn)) ∧
      around.clock.isSome ∧ ∃ id, GivesId insertion id := by
  have hdraw : ∃ text drawn, drawRandombuf bytes fuel randomstrWidth 0 0 = some (text, drawn) := by
    rw [registerFreshCookie] at h
    rcases Option.map_eq_some_iff.mp h with ⟨⟨text, drawn⟩, hdraw, -⟩
    exact ⟨text, drawn, hdraw⟩
  refine ⟨hdraw, ?_⟩
  rcases hdraw with ⟨text, drawn, hdraw⟩
  cases hclock : around.clock with
  | none =>
    rw [registerFreshCookie_of_clock hdraw hclock] at h
    cases h
  | some now =>
    refine ⟨rfl, ?_⟩
    by_contra hno
    rw [registerFreshCookie_aborts hdraw hclock hno] at h
    cases h

/-- A positive id comes back with its header. -/
theorem registerFreshCookie_of_givesId {text : Text} {drawn now : Nat}
    (hdraw : drawRandombuf bytes fuel randomstrWidth 0 0 = some (text, drawn))
    (hclock : around.clock = some now) {id : BitVec 64} (hid : GivesId insertion id) :
    ∃ reg, registerFreshCookie bytes around fuel (some ⟨some request, some response⟩) insertion
        rows = some (.ok reg) ∧ CookieSet insertion response rows reg := by
  have hrandom := isRandomstr_of_draw bytes hdraw
  obtain ⟨rows', hinsert, hrows⟩ :=
    getIdOfAddedWebCookie_of_random insertion rows hrandom (now + webCookieDuration)
      (webagentHash around ((findHeader "User-Agent".toList request).getD []))
  have hreturn := registerFreshCookie_of_draw response hdraw hclock hinsert
  have hpos := (givenId_pos_iff insertion).mpr ⟨id, hid⟩
  rw [makeCookieString_eq _ hpos hrandom] at hreturn
  refine ⟨_, hreturn, ?_, fun hnone => absurd hid (hnone id)⟩
  intro id' hid'
  have hgiven : givenId insertion = id' := by
    rw [hid'.1]
    rfl
  rw [hgiven]
  refine ⟨_, _, ?_, hrows id' hid', rfl, cookieOf_cookieHeader hrandom id' _⟩
  rw [setHeader_cookieText hrandom]

end Register

/-- **Exactness.** The function does what it should exactly when the random string
can be drawn, the clock can be read and the insertion gave a positive id. -/
theorem freshCookieCorrect_iff (around : Surroundings) (request response : Headers)
    (insertion : Insertion) (rows : List WebCookieRow) :
    FreshCookieCorrect bytes around request response insertion rows ↔
      Drawable bytes 12 0 ∧ around.clock.isSome ∧ ∃ id, GivesId insertion id := by
  constructor
  · rintro ⟨fuel, reg, hreturn, -⟩
    rcases registerFreshCookie_ok hreturn with ⟨⟨text, drawn, hdraw⟩, hclock, hid⟩
    exact ⟨drawable_of_draw bytes rfl hdraw, hclock, hid⟩
  · rintro ⟨hdrawable, hclock, id, hid⟩
    rcases draw_of_drawable bytes (Nat.zero_mod 2) hdrawable with ⟨fuel, hdraws⟩
    rcases hdraws fuel (le_refl fuel) with ⟨text, drawn, hdraw⟩
    rcases Option.isSome_iff_exists.mp hclock with ⟨now, hnow⟩
    rcases registerFreshCookie_of_givesId hdraw hnow hid with ⟨reg, hreturn, hset⟩
    exact ⟨fuel, reg, hreturn, hset⟩

/-- A process that hashes with a constant and whose clock works. -/
def someSurroundings : Surroundings := ⟨fun _ => 0, some 1600000000⟩

/-- An exception in the database aborts the process: with bytes that give the
letter `a` everywhere, and no header in the request. -/
theorem registerFreshCookie_exception :
    registerFreshCookie (fun _ => 10) someSurroundings 0 (some ⟨some [], some []⟩) .exception [] =
        some (.error .assertion) ∧
      ¬ FreshCookieCorrect (fun _ => 10) someSurroundings [] [] .exception [] := by
  refine ⟨by decide, ?_⟩
  rintro ⟨fuel, reg, hreturn, -⟩
  rcases registerFreshCookie_ok hreturn with ⟨-, -, id, hstored, -⟩
  cases hstored

end HelpCovid.Web
