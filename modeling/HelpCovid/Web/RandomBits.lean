import Mathlib.Algebra.Group.Nat.Even

/-!
# Quick random bits

`Hcv_Random` keeps a word of the generator in advance and hands out its bits, four
or eight at a time. The words are a sequence, in the order the thread draws them;
`Reads` says what a reader of their bits returns that goes on where it stopped and
skips the last four bits of a word where eight are asked for.
-/

namespace HelpCovid.Web

/-! ## The code -/

/-- The fields of `Hcv_Random` that hold bits in advance, and how many words were
drawn. -/
structure HcvRandom where
  randAdvance : BitVec 32
  randRemainbits : BitVec 8
  drawn : Nat
deriving Repr, DecidableEq

/-- As the constructor leaves it. -/
def HcvRandom.init : HcvRandom := ⟨0, 0, 0⟩

section Generate

variable (word : Nat → BitVec 32)

/-- `_rand_advance = generate_32u(); _rand_remainbits = 32` -/
def refill (st : HcvRandom) : HcvRandom := ⟨word st.drawn, 32, st.drawn + 1⟩

def generateQuickly4bits (st : HcvRandom) : BitVec 8 × HcvRandom :=
  let st := if st.randRemainbits.toNat < 4 then refill word st else st
  let res := (st.randAdvance &&& 0xf).setWidth 8
  let st := { st with randRemainbits := st.randRemainbits - 4 }
  let st := { st with randAdvance := st.randAdvance >>> 4 }
  (res, st)

def generateQuickly8bits (st : HcvRandom) : BitVec 8 × HcvRandom :=
  let st := if st.randRemainbits.toNat < 8 then refill word st else st
  let res := (st.randAdvance &&& 0xff).setWidth 8
  let st := { st with randAdvance := st.randAdvance >>> 8 }
  let st := { st with randRemainbits := st.randRemainbits - 8 }
  (res, st)

/-- A call. -/
inductive Quickly where
  | bits4
  | bits8
deriving Repr, DecidableEq

def Quickly.width : Quickly → Nat
  | bits4 => 4
  | bits8 => 8

def generateQuickly : Quickly → HcvRandom → BitVec 8 × HcvRandom
  | .bits4 => generateQuickly4bits word
  | .bits8 => generateQuickly8bits word

/-- The calls of a thread: what they return, and the state they leave. -/
def generateAll : List Quickly → HcvRandom → List (BitVec 8) × HcvRandom
  | [], st => ([], st)
  | q :: calls, st =>
    let (res, st) := generateQuickly word q st
    let (rest, st) := generateAll calls st
    (res :: rest, st)

end Generate

/-! ## What is asked for -/

/-- No bit is left over that was not counted: a multiple of four up to 32, and the
buffer has no bit above. -/
structure Sane (st : HcvRandom) : Prop where
  multiple : st.randRemainbits.toNat % 4 = 0
  atMost : st.randRemainbits.toNat ≤ 32
  below : st.randAdvance.toNat < 2 ^ st.randRemainbits.toNat

/-- The count goes down by the bits that are handed out, without wrapping: from 32
when there were not enough. -/
def CountsDown (q : Quickly) (st st' : HcvRandom) : Prop :=
  st'.randRemainbits.toNat + q.width =
    if st.randRemainbits.toNat < q.width then 32 else st.randRemainbits.toNat

section Reader

variable (word : Nat → BitVec 32)

/-- The bits of the words, the low ones first. -/
def streamBit (n : Nat) : Bool := (word (n / 32)).getLsbD (n % 32)

/-- `v` is the `width` bits from `pos` on, the first one lowest. -/
def IsSlice (pos width : Nat) (v : BitVec 8) : Prop :=
  ∀ i < 8, v.getLsbD i = (decide (i < width) && streamBit word (pos + i))

/-- Where a call at `pos` reads: eight bits do not begin in the last four of a word. -/
def readFrom (pos : Nat) : Quickly → Nat
  | .bits4 => pos
  | .bits8 => if pos % 32 = 28 then pos + 4 else pos

/-- The values of the calls are slices of the stream, one after the other. -/
def Reads : List Quickly → (pos : Nat) → List (BitVec 8) → Prop
  | [], _, values => values = []
  | q :: calls, pos, values => ∃ v rest, values = v :: rest ∧
    IsSlice word (readFrom pos q) q.width v ∧ Reads calls (readFrom pos q + q.width) rest

/-! ## The buffer -/

/-- The buffer holds the bits of the stream from `pos` to the end of a word. -/
structure Buffered (st : HcvRandom) (pos : Nat) : Prop where
  multiple : st.randRemainbits.toNat % 4 = 0
  atMost : st.randRemainbits.toNat ≤ 32
  position : pos + st.randRemainbits.toNat = 32 * st.drawn
  bits : ∀ i, st.randAdvance.getLsbD i =
    (decide (i < st.randRemainbits.toNat) && streamBit word (pos + i))

variable {word}

theorem buffered_init : Buffered word .init 0 where
  multiple := rfl
  atMost := by decide
  position := rfl
  bits := by
    intro i
    show (0#32).getLsbD i = (decide (i < 0) && _)
    simp

theorem Buffered.sane {st : HcvRandom} {pos : Nat} (h : Buffered word st pos) : Sane st := by
  refine ⟨h.multiple, h.atMost, Nat.lt_pow_two_of_testBit _ fun i hi => ?_⟩
  have hbit := h.bits i
  have hover : ¬ i < st.randRemainbits.toNat := by omega
  rw [decide_eq_false hover, Bool.false_and] at hbit
  exact hbit

theorem toNat_refill (st : HcvRandom) : (refill word st).randRemainbits.toNat = 32 := rfl

/-- A new word begins where the words drawn so far end. -/
theorem buffered_refill (st : HcvRandom) : Buffered word (refill word st) (32 * st.drawn) where
  multiple := by rw [toNat_refill]
  atMost := Nat.le_of_eq (toNat_refill st)
  position := by
    show 32 * st.drawn + 32 = 32 * (st.drawn + 1)
    omega
  bits := by
    intro i
    show (word st.drawn).getLsbD i = (decide (i < 32) && streamBit word (32 * st.drawn + i))
    by_cases hi : i < 32
    · have hword : (32 * st.drawn + i) / 32 = st.drawn := by omega
      have hbit : (32 * st.drawn + i) % 32 = i := by omega
      rw [streamBit, hword, hbit, decide_eq_true hi, Bool.true_and]
    · rw [decide_eq_false hi, Bool.false_and]
      exact BitVec.getLsbD_of_ge _ _ (Nat.le_of_not_lt hi)

section Take

variable {st : HcvRandom} {pos width : Nat} {mask : BitVec 32}

/-- The low bits are a slice. -/
theorem Buffered.isSlice (h : Buffered word st pos) (hwidth : width ≤ st.randRemainbits.toNat)
    (hmask : ∀ i < 8, mask.getLsbD i = decide (i < width)) :
    IsSlice word pos width ((st.randAdvance &&& mask).setWidth 8) := by
  intro i hi
  rw [BitVec.getLsbD_setWidth, BitVec.getLsbD_and, h.bits, hmask i hi, decide_eq_true hi,
    Bool.true_and]
  by_cases hin : i < width
  · have hcount : i < st.randRemainbits.toNat := by omega
    rw [decide_eq_true hin, decide_eq_true hcount, Bool.true_and, Bool.and_true]
  · rw [decide_eq_false hin, Bool.and_false, Bool.false_and]

/-- The other bits are still there. -/
theorem Buffered.shift (h : Buffered word st pos) (hwidth : width ≤ st.randRemainbits.toNat)
    (hfour : width % 4 = 0) {st' : HcvRandom}
    (hadvance : st'.randAdvance = st.randAdvance >>> width)
    (hcount : st'.randRemainbits.toNat + width = st.randRemainbits.toNat)
    (hdrawn : st'.drawn = st.drawn) : Buffered word st' (pos + width) where
  multiple := by
    have hmultiple := h.multiple
    omega
  atMost := by
    have hatMost := h.atMost
    omega
  position := by
    have hposition := h.position
    rw [hdrawn]
    omega
  bits := by
    intro i
    rw [hadvance, BitVec.getLsbD_ushiftRight, h.bits, Nat.add_assoc]
    congr 1
    rw [decide_eq_decide]
    omega

end Take

/-- A count that is large enough does not wrap. -/
theorem toNat_sub_add {count width : BitVec 8} (h : width.toNat ≤ count.toNat) :
    (count - width).toNat + width.toNat = count.toNat := by
  rw [BitVec.toNat_sub_of_le (BitVec.le_def.mpr h)]
  omega

/-- The buffer that a call takes its bits from holds those it is to read. -/
theorem Buffered.refilled {st : HcvRandom} {pos : Nat} (h : Buffered word st pos) (q : Quickly) :
    Buffered word (if st.randRemainbits.toNat < q.width then refill word st else st)
        (readFrom pos q) ∧
      q.width ≤ (if st.randRemainbits.toNat < q.width then refill word st else st).randRemainbits.toNat := by
  have hmultiple := h.multiple
  have hposition := h.position
  have hatMost := h.atMost
  by_cases hfew : st.randRemainbits.toNat < q.width
  · have hfrom : readFrom pos q = 32 * st.drawn := by
      cases q with
      | bits4 =>
        show pos = _
        have hwidth : st.randRemainbits.toNat < 4 := hfew
        omega
      | bits8 =>
        show (if pos % 32 = 28 then pos + 4 else pos) = _
        have hwidth : st.randRemainbits.toNat < 8 := hfew
        split
        · omega
        · omega
    rw [if_pos hfew, hfrom, toNat_refill]
    refine ⟨buffered_refill st, ?_⟩
    cases q <;> decide
  · have hfrom : readFrom pos q = pos := by
      cases q with
      | bits4 => rfl
      | bits8 =>
        have hwidth : ¬ st.randRemainbits.toNat < 8 := hfew
        exact if_neg (by omega)
    rw [if_neg hfew, hfrom]
    exact ⟨h, Nat.le_of_not_lt hfew⟩

/-- One call: it returns the next slice and leaves the bits after it. -/
theorem Buffered.step {st : HcvRandom} {pos : Nat} (h : Buffered word st pos) (q : Quickly) :
    IsSlice word (readFrom pos q) q.width (generateQuickly word q st).1 ∧
      Buffered word (generateQuickly word q st).2 (readFrom pos q + q.width) ∧
      CountsDown q st (generateQuickly word q st).2 := by
  rcases h.refilled q with ⟨hbuffered, hwidth⟩
  have hcount : (if st.randRemainbits.toNat < q.width then refill word st
      else st).randRemainbits.toNat =
      if st.randRemainbits.toNat < q.width then 32 else st.randRemainbits.toNat := by
    split
    · exact toNat_refill st
    · rfl
  rw [CountsDown, ← hcount]
  cases q with
  | bits4 =>
    have hmask : ∀ i < 8, (0xf : BitVec 32).getLsbD i = decide (i < 4) := by decide
    have hsub := @toNat_sub_add _ 4 hwidth
    exact ⟨hbuffered.isSlice hwidth hmask, hbuffered.shift hwidth rfl rfl hsub rfl, hsub⟩
  | bits8 =>
    have hmask : ∀ i < 8, (0xff : BitVec 32).getLsbD i = decide (i < 8) := by decide
    have hsub := @toNat_sub_add _ 8 hwidth
    exact ⟨hbuffered.isSlice hwidth hmask, hbuffered.shift hwidth rfl rfl hsub rfl, hsub⟩

/-! ## All calls of a thread -/

/-- Where the calls stop reading. -/
def readTo (pos : Nat) (calls : List Quickly) : Nat :=
  calls.foldl (fun pos q => readFrom pos q + q.width) pos

theorem Buffered.run {st : HcvRandom} {pos : Nat} (h : Buffered word st pos)
    (calls : List Quickly) :
    Reads word calls pos (generateAll word calls st).1 ∧
      Buffered word (generateAll word calls st).2 (readTo pos calls) := by
  induction calls generalizing st pos with
  | nil => exact ⟨rfl, h⟩
  | cons q calls ih =>
    rcases h.step q with ⟨hslice, hnext, -⟩
    rcases ih hnext with ⟨hreads, hend⟩
    exact ⟨⟨_, _, rfl, hslice, hreads⟩, hend⟩

/-- **No bit is used twice.** Whatever calls a thread has made, their values are
consecutive slices of the stream, but for the four bits that are skipped where eight
are asked for; the buffer is sane, and the next call counts down without wrapping. -/
theorem quickly_neverReused (word : Nat → BitVec 32) (calls : List Quickly) :
    Reads word calls 0 (generateAll word calls .init).1 ∧
      Sane (generateAll word calls .init).2 ∧
      ∀ q, CountsDown q (generateAll word calls .init).2
        (generateQuickly word q (generateAll word calls .init).2).2 := by
  rcases (@buffered_init word).run calls with ⟨hreads, hend⟩
  exact ⟨hreads, hend.sane, fun q => (hend.step q).2.2⟩

end Reader

end HelpCovid.Web
