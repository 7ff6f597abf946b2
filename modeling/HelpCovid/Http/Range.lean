import HelpCovid.Http.Content
import HelpCovid.Http.Query

/-!
# Parts of a body

A client asks for parts of a body with a `Range` field. `parse_range_header` reads
it as pairs of positions, -1 for one that is left out, and stops at the first part
that ends before it starts. `std::stoll` throws on a number that does not fit into
64 bits, and `std::string::substr` on a part that starts after the end of the body;
nothing catches these exceptions on the way out of the worker, and so the process
ends. For every field that a client can write, `parseRangeHeader_of_writes` says
what is read of it, and `part_toRange` which bytes a part has, and when it has none.
-/

namespace HelpCovid.Http

open CText Web

/-! ## The field -/

/-- `(\d*)-(\d*)` -/
def matchRange (s : Text) : Option (Text × Text) :=
  let first := s.takeWhile Char.isDigit
  match s.drop first.length with
  | '-' :: last => if last.all Char.isDigit then some (first, last) else none
  | _ => none

/-- `re_first_range`: what the field has after the unit. A comma is matched where one
is written only. -/
def matchFirstRange (s : Text) : Option Text := do
  let spec ← literal "bytes=".toList s
  match spec.splitOn ',' with
  | [] => none
  | piece :: pieces =>
      guard ((matchRange piece).isSome ∧ pieces.all fun piece => (matchRange (blanks piece)).isSome)
      return spec

/-- `std::stoll` of digits; `none` when it throws. -/
def stoll (digits : Text) : Option Int :=
  if decimalNumber digits < 2 ^ 63 then some (decimalNumber digits) else none

/-- The position that digits stand for, -1 for none. -/
def position (digits : Text) : Option Int := if digits.isEmpty then some (-1) else stoll digits

/-- The calls of the inner function of `parse_range_header`: whether all ranges were
valid, and the ranges; `none` when one of them throws. -/
def readRanges : List Text → Option (Bool × List Range)
  | [] => some (true, [])
  | piece :: pieces =>
      match matchRange (blanks piece) with
      | none => readRanges pieces
      | some (before, after) => do
          let first ← position before
          let last ← position after
          -- the pieces after this one are not looked at
          if first ≠ -1 ∧ last ≠ -1 ∧ last < first then some (false, [])
          else
            let (allValid, ranges) ← readRanges pieces
            return (allValid, (first, last) :: ranges)

/-- `detail::parse_range_header`, given no ranges. -/
def parseRangeHeader (s : Text) : Option (Bool × List Range) :=
  match matchFirstRange s with
  | none => some (false, [])
  | some spec => readRanges (split spec ',')

/-! ## The body -/

/-- The conversion to `size_t`. -/
def toSize (n : Int) : Nat := (n % 2 ^ 64).toNat

/-- `detail::get_range_offset_and_length` -/
def getRangeOffsetAndLength (r : Range) (contentLength : Nat) : Nat × Nat :=
  if r.1 = -1 ∧ r.2 = -1 then (0, contentLength)
  else
    let slen : Int := contentLength
    let r : Range := if r.1 = -1 then (slen - r.2, slen - 1) else r
    let r : Range := if r.2 = -1 then (r.1, slen - 1) else r
    (toSize r.1, toSize (r.2 - r.1 + 1))

/-- `std::string::substr`; `none` when it throws. -/
def substr (s : Text) (offset length : Nat) : Option Text :=
  if offset ≤ s.length then some ((s.drop offset).take length) else none

/-- `detail::make_content_range_header_field` -/
def makeContentRangeHeaderField (offset length contentLength : Nat) : Text :=
  "bytes ".toList ++ toDecimal offset ++ '-' :: toDecimal (toSize (offset + length - 1)) ++
    '/' :: toDecimal contentLength

/-- The part of the body that a range stands for. -/
def part (body : Text) (r : Range) : Option Text :=
  let (offset, length) := getRangeOffsetAndLength r body.length
  substr body offset length

/-- The tokens of `detail::process_multipart_ranges_data` for one range. -/
def rangeData (body boundary contentType : Text) (r : Range) : Option Text := do
  let (offset, length) := getRangeOffsetAndLength r body.length
  let content ← substr body offset length
  let type := if contentType ≠ [] then "Content-Type: ".toList ++ contentType ++ crlf else []
  return "--".toList ++ boundary ++ crlf ++ type ++ "Content-Range: ".toList ++
    makeContentRangeHeaderField offset length body.length ++ crlf ++ crlf ++ content ++ crlf

/-- `detail::make_multipart_ranges_data` -/
def makeMultipartRangesData (ranges : List Range) (body boundary contentType : Text) :
    Option Text := do
  let data ← ranges.mapM (rangeData body boundary contentType)
  return data.flatten ++ "--".toList ++ boundary ++ "--".toList ++ crlf

/-! ## What a client asks for -/

/-- A part as it is asked for: its first and its last position, or its length only. -/
abbrev RangeSpec := Option Nat × Option Nat

/-- A position in digits, or nothing. -/
inductive WritesPosition : Option Nat → Text → Prop
  | omitted : WritesPosition none []
  | digits {n : Nat} {digits : Text} (hne : digits ≠ [])
      (hdigits : ∀ c ∈ digits, c.isDigit = true) (hn : decimalNumber digits = n) :
      WritesPosition (some n) digits

/-- `first-last` -/
inductive WritesSpec : RangeSpec → Text → Prop
  | intro {spec : RangeSpec} {first last : Text} (hfirst : WritesPosition spec.1 first)
      (hlast : WritesPosition spec.2 last) : WritesSpec spec (first ++ '-' :: last)

/-- The pieces after a comma may start with blanks. -/
inductive WritesNext : RangeSpec → Text → Prop
  | intro {spec : RangeSpec} {piece : Text} (before : Text) (hpiece : WritesSpec spec piece)
      (hbefore : ∀ c ∈ before, isSpace c = true) : WritesNext spec (before ++ piece)

/-- A field that asks for some parts. -/
inductive WritesRanges : List RangeSpec → Text → Prop
  | intro {spec : RangeSpec} {piece : Text} {specs : List RangeSpec} {pieces : List Text}
      (hpiece : WritesSpec spec piece) (hpieces : List.Forall₂ WritesNext specs pieces) :
      WritesRanges (spec :: specs) ("bytes=".toList ++ [','].intercalate (piece :: pieces))

def fitsPosition (p : Option Nat) : Bool := p.all (· < 2 ^ 63)

/-- Its numbers fit into 64 bits. -/
def fits (spec : RangeSpec) : Bool := fitsPosition spec.1 && fitsPosition spec.2

/-- It ends before it starts. -/
def reversed : RangeSpec → Bool
  | (some first, some last) => decide (last < first)
  | _ => false

/-- The parts up to the first reversed one. -/
def inForce (specs : List RangeSpec) : List RangeSpec := specs.takeWhile (!reversed ·)

theorem inForce_of_reversed {spec : RangeSpec} (h : reversed spec = true)
    (specs : List RangeSpec) : inForce (spec :: specs) = [] :=
  List.takeWhile_cons_of_neg (by simp [h])

theorem inForce_of_not_reversed {spec : RangeSpec} (h : reversed spec = false)
    (specs : List RangeSpec) : inForce (spec :: specs) = spec :: inForce specs :=
  List.takeWhile_cons_of_pos (by simp [h])

/-- A position of a `Range`. -/
def toPosition : Option Nat → Int
  | none => -1
  | some n => n

def toRange (spec : RangeSpec) : Range := (toPosition spec.1, toPosition spec.2)

/-- The first byte that is asked for, which may be before the body. -/
def firstByte (size : Nat) : RangeSpec → Int
  | (some first, _) => first
  | (none, some n) => size - n
  | (none, none) => 0

/-- The bytes that are asked for. -/
def wanted (body : Text) : RangeSpec → Text
  | (some first, some last) => (body.drop first).take (last + 1 - first)
  | (some first, none) => body.drop first
  | (none, some n) => body.drop (body.length - n)
  | (none, none) => body

/-! ## Reading the field -/

theorem WritesPosition.isDigit {p : Option Nat} {s : Text} (h : WritesPosition p s) :
    ∀ c ∈ s, c.isDigit = true := by
  cases h with
  | omitted => simp
  | digits _ hdigits _ => exact hdigits

theorem position_of_writes {p : Option Nat} {s : Text} (h : WritesPosition p s) :
    position s = if fitsPosition p then some (toPosition p) else none := by
  cases h with
  | omitted => rfl
  | @digits n _ hne _ hn =>
      rw [position, if_neg (by simpa using hne), stoll, hn]
      simp only [fitsPosition, Option.all_some, decide_eq_true_eq, toPosition]

theorem matchRange_of_writes {first last : Text} (hfirst : ∀ c ∈ first, c.isDigit = true)
    (hlast : ∀ c ∈ last, c.isDigit = true) :
    matchRange (first ++ '-' :: last) = some (first, last) := by
  have htake : (first ++ '-' :: last).takeWhile Char.isDigit = first := by
    rw [List.takeWhile_append_of_pos hfirst, List.takeWhile_cons_of_neg (by decide),
      List.append_nil]
  rw [matchRange]
  simp only [htake, List.drop_left]
  exact if_pos (List.all_eq_true.mpr hlast)

/-- What a piece has after its blanks, and its positions. -/
theorem matchRange_blanks {spec : RangeSpec} {piece : Text} (h : WritesNext spec piece) :
    ∃ first last, matchRange (blanks piece) = some (first, last) ∧
      WritesPosition spec.1 first ∧ WritesPosition spec.2 last := by
  rcases h with ⟨before, ⟨hfirst, hlast⟩, hbefore⟩
  next first last =>
  have hhead : ∀ c ∈ (first ++ '-' :: last).head?, isSpace c = false := by
    intro c hc
    cases first with
    | nil =>
        obtain rfl : '-' = c := by simpa using hc
        rfl
    | cons d ds =>
        obtain rfl : d = c := by simpa using hc
        exact not_isSpace_of_isHexDigit (isHexDigit_of_isDigit (hfirst.isDigit d List.mem_cons_self))
  have hblanks : blanks (before ++ (first ++ '-' :: last)) = first ++ '-' :: last := by
    rw [blanks, List.dropWhile_append_of_pos hbefore]
    cases hsplit : first ++ '-' :: last with
    | nil => rfl
    | cons c cs =>
        have hc := hhead c (by rw [hsplit]; rfl)
        rw [List.dropWhile_cons_of_neg (by simp [hc])]
  refine ⟨first, last, ?_, hfirst, hlast⟩
  rw [hblanks]
  exact matchRange_of_writes hfirst.isDigit hlast.isDigit

/-- A part with numbers that do not fit throws, one that is reversed ends the list. -/
theorem readRanges_cons {spec : RangeSpec} {piece : Text} (h : WritesNext spec piece)
    (pieces : List Text) :
    readRanges (piece :: pieces) =
      if fits spec then
        if reversed spec then some (false, [])
        else (readRanges pieces).map fun found => (found.1, toRange spec :: found.2)
      else none := by
  rcases matchRange_blanks h with ⟨first, last, hmatch, hfirst, hlast⟩
  rw [readRanges, hmatch]
  simp only [position_of_writes hfirst, position_of_writes hlast, fits, Bool.and_eq_true]
  by_cases h1 : fitsPosition spec.1 = true
  · by_cases h2 : fitsPosition spec.2 = true
    · have hreversed : (toPosition spec.1 ≠ -1 ∧ toPosition spec.2 ≠ -1 ∧
          toPosition spec.2 < toPosition spec.1) ↔ reversed spec = true := by
        rcases spec with ⟨_ | n, _ | m⟩ <;> simp [toPosition, reversed]
      simp only [h1, h2, if_true, and_self, Option.bind_eq_bind, Option.bind_some, hreversed]
      split
      · rfl
      · cases readRanges pieces <;> rfl
    · simp [h1, h2]
  · simp [h1]

/-- Of the parts that are written those before a reversed one are read. The parser
throws exactly when a number of these or of the reversed one does not fit. -/
theorem readRanges_of_writes {specs : List RangeSpec} {pieces : List Text}
    (h : List.Forall₂ WritesNext specs pieces) :
    readRanges pieces =
      if (specs.take ((inForce specs).length + 1)).all fits then
        some (specs.all (!reversed ·), (inForce specs).map toRange)
      else none := by
  induction h with
  | nil => rfl
  | @cons spec piece specs pieces hpiece _ ih =>
      rw [readRanges_cons hpiece, ih]
      cases hrev : reversed spec with
      | true => simp [inForce_of_reversed hrev, hrev]
      | false =>
          simp only [inForce_of_not_reversed hrev, hrev, List.length_cons, List.take_succ_cons,
            List.all_cons, List.map_cons, Bool.and_eq_true, Bool.false_eq_true, if_false]
          cases fits spec with
          | false => simp
          | true =>
              simp only [if_true, true_and]
              split <;> simp

theorem exists_writes {specs : List RangeSpec} {pieces : List Text}
    (h : List.Forall₂ WritesNext specs pieces) : ∀ l ∈ pieces, ∃ spec, WritesNext spec l := by
  induction h with
  | nil => simp
  | cons hpiece _ ih => exact List.forall_mem_cons.mpr ⟨⟨_, hpiece⟩, ih⟩

/-- Between the commas of a field are its pieces. -/
theorem splitOn_pieces {specs : List RangeSpec} {pieces : List Text}
    (h : List.Forall₂ WritesNext specs pieces) (hne : pieces ≠ []) :
    ([','].intercalate pieces).splitOn ',' = pieces ∧ [','].intercalate pieces ≠ [] := by
  have hpiece : ∀ l ∈ pieces, ',' ∉ l ∧ '-' ∈ l := by
    intro l hl
    rcases exists_writes h l hl with ⟨spec, ⟨before, ⟨hfirst, hlast⟩, hbefore⟩⟩
    next first last =>
    have hdigits : ',' ∉ first ∧ ',' ∉ last :=
      ⟨fun hmem => absurd (hfirst.isDigit _ hmem) (by decide),
        fun hmem => absurd (hlast.isDigit _ hmem) (by decide)⟩
    have hblank : ',' ∉ before := fun hmem => absurd (hbefore _ hmem) (by decide)
    simp [hdigits, hblank]
  have hsplit := List.splitOn_intercalate ',' (fun l hl => (hpiece l hl).1) hne
  refine ⟨hsplit, fun hnil => ?_⟩
  -- only one empty piece is put together as nothing
  rw [hnil, List.splitOn_nil] at hsplit
  exact List.not_mem_nil (hpiece [] (hsplit ▸ List.mem_cons_self)).2

theorem WritesSpec.next {spec : RangeSpec} {piece : Text} (h : WritesSpec spec piece) :
    WritesNext spec piece := @WritesNext.intro spec piece [] h (by simp)

/-- The parts before a reversed one are read, in order, unless a number of these or of
the reversed one does not fit: then the process ends. -/
theorem parseRangeHeader_of_writes {specs : List RangeSpec} {s : Text} (h : WritesRanges specs s) :
    parseRangeHeader s =
      if (specs.take ((inForce specs).length + 1)).all fits then
        some (specs.all (!reversed ·), (inForce specs).map toRange)
      else none := by
  rcases h with ⟨hpiece, hpieces⟩
  next spec piece specs pieces =>
  have hall : List.Forall₂ WritesNext (spec :: specs) (piece :: pieces) :=
    .cons hpiece.next hpieces
  rcases splitOn_pieces hall (List.cons_ne_nil _ _) with ⟨hsplit, hne⟩
  have hfirst : (matchRange piece).isSome = true := by
    rcases hpiece with ⟨hfirst, hlast⟩
    rw [matchRange_of_writes hfirst.isDigit hlast.isDigit]
    rfl
  have hothers : pieces.all fun piece => (matchRange (blanks piece)).isSome := by
    refine List.all_eq_true.mpr fun l hl => ?_
    rcases exists_writes hpieces l hl with ⟨r, hr⟩
    rcases matchRange_blanks hr with ⟨first, last, hsome, -⟩
    rw [hsome]
    rfl
  have hmatch : matchFirstRange ("bytes=".toList ++ [','].intercalate (piece :: pieces)) =
      some ([','].intercalate (piece :: pieces)) := by
    rw [matchFirstRange, literal_append]
    simp only [Option.bind_eq_bind, Option.bind_some, hsplit, guard, hfirst, hothers, and_self,
      if_true]
    rfl
  rw [parseRangeHeader, hmatch]
  simp only
  rw [split, if_neg (by simpa using hne), hsplit]
  exact readRanges_of_writes hall

/-! ## Cutting the body -/

theorem toSize_of_nonneg {n : Int} (h : 0 ≤ n) (hlt : n < 2 ^ 64) : toSize n = n.toNat := by
  rw [toSize, Int.emod_eq_of_lt h hlt]

/-- A position before the body becomes one far behind it. -/
theorem lt_toSize_of_neg {n : Int} (h : n < 0) (hlt : -2 ^ 63 ≤ n) : 2 ^ 63 ≤ toSize n := by
  unfold toSize
  omega

theorem substr_eq_none {s : Text} {offset : Nat} (h : s.length < offset) (length : Nat) :
    substr s offset length = none := if_neg (Nat.not_le.mpr h)

/-- It is enough to know the first position and the length as integers. -/
theorem part_eq {body : Text} (hsize : body.length < 2 ^ 63) {spec : RangeSpec} {length : Int}
    (hr : getRangeOffsetAndLength (toRange spec) body.length =
      (toSize (firstByte body.length spec), toSize length))
    (hfirst : -2 ^ 63 ≤ firstByte body.length spec ∧ firstByte body.length spec < 2 ^ 63)
    (hwanted : 0 ≤ firstByte body.length spec → firstByte body.length spec ≤ body.length →
      0 ≤ length ∧ length < 2 ^ 64 ∧
        (body.drop (firstByte body.length spec).toNat).take length.toNat = wanted body spec) :
    part body (toRange spec) =
      if 0 ≤ firstByte body.length spec ∧ firstByte body.length spec ≤ body.length then
        some (wanted body spec)
      else none := by
  rw [part, hr]
  simp only
  by_cases hneg : firstByte body.length spec < 0
  · have hlarge := lt_toSize_of_neg hneg hfirst.1
    rw [substr_eq_none (by omega), if_neg (by omega)]
  have hnonneg : 0 ≤ firstByte body.length spec := Int.not_lt.mp hneg
  rw [toSize_of_nonneg hnonneg (by omega)]
  by_cases hend : firstByte body.length spec ≤ body.length
  · rcases hwanted hnonneg hend with ⟨hpos, hlt, hbytes⟩
    rw [toSize_of_nonneg hpos hlt, substr, if_pos (by omega), if_pos ⟨hnonneg, hend⟩, hbytes]
  · rw [substr_eq_none (by omega), if_neg (by omega)]

/-- The bytes that are asked for are cut out of the body, and `substr` throws exactly
when the first of them is before the body or after its end. -/
theorem part_toRange {spec : RangeSpec} (hfits : fits spec = true) (hrev : reversed spec = false)
    {body : Text} (hsize : body.length < 2 ^ 63) :
    part body (toRange spec) =
      if 0 ≤ firstByte body.length spec ∧ firstByte body.length spec ≤ body.length then
        some (wanted body spec)
      else none := by
  rcases spec with ⟨_ | first, _ | last⟩
  · -- `-`
    simp [part, getRangeOffsetAndLength, toRange, toPosition, substr, firstByte, wanted]
  · -- `-last`
    have hlast : last < 2 ^ 63 := by simpa [fits, fitsPosition] using hfits
    have hbyte : firstByte body.length (none, some last) = body.length - last := rfl
    have hsum : (body.length : Int) - 1 - (body.length - last) + 1 = last := by omega
    refine @part_eq body hsize (none, some last) last ?_ (by omega) fun hpos hend => ?_
    · have hne : (last : Int) ≠ -1 := by omega
      simp only [getRangeOffsetAndLength, toRange, toPosition, hne, and_false, if_false, if_true,
        hbyte, ite_self, hsum]
    · have hdrop : ((body.length : Int) - last).toNat = body.length - last := by omega
      refine ⟨by omega, by omega, ?_⟩
      rw [hbyte, hdrop, wanted, Int.toNat_natCast]
      refine List.take_of_length_le ?_
      rw [List.length_drop]
      omega
  · -- `first-`
    have hfirst : first < 2 ^ 63 := by simpa [fits, fitsPosition] using hfits
    have hbyte : firstByte body.length (some first, none) = first := rfl
    refine @part_eq body hsize (some first, none) (body.length - first) ?_ (by omega)
      fun hpos hend => ?_
    · have hne : (first : Int) ≠ -1 := by omega
      have hsum : (body.length : Int) - 1 - first + 1 = body.length - first := by omega
      simp only [getRangeOffsetAndLength, toRange, toPosition, hne, false_and, if_false, if_true,
        hsum, hbyte]
    · refine ⟨by omega, by omega, ?_⟩
      rw [hbyte, wanted, Int.toNat_natCast]
      refine List.take_of_length_le ?_
      rw [List.length_drop]
      omega
  · -- `first-last`
    have hnumbers : first < 2 ^ 63 ∧ last < 2 ^ 63 := by simpa [fits, fitsPosition] using hfits
    have horder : first ≤ last := by simpa [reversed] using hrev
    have hbyte : firstByte body.length (some first, some last) = first := rfl
    refine @part_eq body hsize (some first, some last) (last - first + 1) ?_ (by omega)
      fun hpos hend => ?_
    · have hne : (first : Int) ≠ -1 ∧ (last : Int) ≠ -1 := by omega
      simp only [getRangeOffsetAndLength, toRange, toPosition, hne, false_and, if_false, hbyte]
    · have hlength : ((last : Int) - first + 1).toNat = last + 1 - first := by omega
      refine ⟨by omega, by omega, ?_⟩
      rw [hbyte, wanted, Int.toNat_natCast, hlength]

end HelpCovid.Http
