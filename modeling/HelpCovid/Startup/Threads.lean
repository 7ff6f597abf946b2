import HelpCovid.Lib.Machine
import HelpCovid.Startup.Precedence

/-!
# The number of worker threads

Three pieces of code keep the number of threads within bounds. They compare it
with `hardware_concurrency() - 1`, which is the largest number where nothing is
known of the processor, and they look at the lowest 32 bits of what was asked
for. Between the two thresholds of the option and the configuration file a larger
request falls back to four.
-/

namespace HelpCovid.Startup

open CText Machine

/-! ## What is asked for -/

namespace Sources

/-- The text that decides on the number: from the configuration file, else the last
option. -/
def askedThreads (s : Sources) : Option Text :=
  (s.config .threads).or (optionValue .threads s.args)

end Sources

/-- The number that the program makes of a text. -/
def received (v : Text) : Nat := toUnsigned (atoi v)

/-- The number of threads is sane: within its bounds in the first run, and not
smaller in the second when that one asks for more. -/
structure ThreadsSane (hw : Nat) (s s' : Sources) (st st' : Start) : Prop where
  atLeast : 2 ≤ st.httpMaxThreads
  atMost : st.httpMaxThreads ≤ max 4 hw
  order : ∀ v v', s.askedThreads = some v → s'.askedThreads = some v' →
    signedNumber v ≤ signedNumber v' → st.httpMaxThreads ≤ st'.httpMaxThreads

/-- The largest number that is left as it is. -/
def threadLimit (hw : Nat) : Nat := max 4 (concurrencyMinusOne hw)

/-- The number for those that ask for more than the limit. -/
def threadFallback (hw : Nat) : Nat := if hw > 8 then concurrencyMinusOne hw else 4

/-- The processor is known, or no more than four threads are asked for. -/
def BoundsKept (hw : Nat) (s : Sources) : Prop :=
  hw ≠ 0 ∨ ∃ v, s.askedThreads = some v ∧ received v ≤ 4

/-- The first number is small, or the numbers are in order and the limit does not
lie between them where the fallback is below the first, or the first is over the
limit and the fallback is not above the second. -/
def OrderKept (hw n n' : Nat) : Prop :=
  n ≤ 2 ∨
    (if n ≤ n' then ¬ (threadFallback hw < n ∧ n ≤ threadLimit hw ∧ threadLimit hw < n')
    else threadLimit hw < n ∧ threadFallback hw ≤ n')

/-! ## The clamps -/

theorem concurrencyMinusOne_eq {hw : Nat} (h : hw < 2 ^ 32) :
    concurrencyMinusOne hw = if hw = 0 then 2 ^ 32 - 1 else hw - 1 := by
  unfold concurrencyMinusOne toUnsigned
  split
  · next hzero =>
    subst hzero
    decide
  · omega

/-- The bounds with their limit and fallback. -/
theorem clampThreads_eq (hw n : Nat) :
    clampThreads hw n =
      if n < 2 then 2 else if threadLimit hw < n then threadFallback hw else n := by
  have hlimit : (n > 4 ∧ n > concurrencyMinusOne hw) ↔ threadLimit hw < n := max_lt_iff.symm
  simp only [clampThreads, hlimit, threadFallback]

/-- The fallback is in bounds and not above the limit; an unknown processor sets no
limit. -/
theorem threadFallback_bounds {hw : Nat} (h : hw < 2 ^ 32) :
    4 ≤ threadFallback hw ∧ threadFallback hw ≤ threadLimit hw ∧
      (hw ≠ 0 → threadLimit hw ≤ max 4 hw) ∧ (hw = 0 → threadLimit hw = 2 ^ 32 - 1) := by
  rw [threadFallback, threadLimit, concurrencyMinusOne_eq h]
  by_cases hzero : hw = 0
  · rw [if_pos hzero, if_neg (by omega)]
    omega
  · rw [if_neg hzero]
    split <;> omega

theorem two_le_clampThreads {hw : Nat} (h : hw < 2 ^ 32) (n : Nat) : 2 ≤ clampThreads hw n := by
  have hbounds := threadFallback_bounds h
  rw [clampThreads_eq]
  split
  · omega
  · split <;> omega

theorem clampThreads_le_iff {hw n : Nat} (h : hw < 2 ^ 32) (hn : n < 2 ^ 32) :
    clampThreads hw n ≤ max 4 hw ↔ hw ≠ 0 ∨ n ≤ 4 := by
  have hbounds := threadFallback_bounds h
  rw [clampThreads_eq]
  split
  · omega
  · split <;> omega

/-- Two numbers are kept in order by the bounds. -/
theorem clampThreads_le_clampThreads_iff {hw : Nat} (h : hw < 2 ^ 32) (n n' : Nat) :
    clampThreads hw n ≤ clampThreads hw n' ↔ OrderKept hw n n' := by
  have hbounds := threadFallback_bounds h
  rw [clampThreads_eq, clampThreads_eq, OrderKept]
  generalize threadFallback hw = fallback at *
  generalize threadLimit hw = limit at *
  -- each number is small, over the limit, or between
  split_ifs <;> omega

/-- The bounds of the environment leave two threads at least. -/
theorem clampEarly_eq (hw n : Nat) :
    clampEarly hw n = max 2 (if n ≥ hw then concurrencyMinusOne hw else n) := by
  simp only [clampEarly]
  generalize (if n ≥ hw then concurrencyMinusOne hw else n) = left
  split <;> omega

theorem two_le_clampEarly (hw n : Nat) : 2 ≤ clampEarly hw n := by
  rw [clampEarly_eq]
  exact le_max_left _ _

theorem clampEarly_le_iff {hw : Nat} (h : hw < 2 ^ 32) (n : Nat) :
    clampEarly hw n ≤ max 4 hw ↔ hw ≠ 0 := by
  rw [clampEarly_eq, concurrencyMinusOne_eq h]
  by_cases hzero : hw = 0
  · rw [if_pos hzero, if_pos (by omega)]
    omega
  · rw [if_neg hzero]
    split <;> omega

/-! ## What `main` ends with -/

theorem received_lt (v : Text) : received v < 2 ^ 32 := by
  unfold received toUnsigned
  omega

/-- The option and the configuration file look at the same bits of a number. -/
theorem received_of_strtol {v rest : Text} {n : Int} (h : strtol v = some (n, rest)) :
    received v = toUnsigned n := by
  have hbits : Int.bmod n (2 ^ 32) % (2 ^ 32 : Nat) = n % (2 ^ 32 : Nat) := Int.bmod_emod
  rw [received, atoi, h, Option.map_some, Option.getD_some]
  exact congrArg Int.toNat hbits

section Main

variable {setlocale : Text → Option Text} {hw : Nat} {s : Sources} {st : Start}

/-- The parts of `main` that set the number of threads. -/
theorem threads_of_main (h : main setlocale hw s.getenv s.keyFile s.args = .ok st) :
    ∃ p, parseProgramArguments setlocale hw s.getenv s.args = .ok p ∧
      mainThreads hw s.keyFile p = .ok st.httpMaxThreads := by
  rcases ok_of_bind h with ⟨p, hp, h⟩
  rcases ok_of_bind h with ⟨n, hn, h⟩
  rcases ok_of_bind h with ⟨web, -, h⟩
  rcases ok_of_bind h with ⟨configured, -, h⟩
  rcases ok_of_bind h with ⟨_, -, h⟩
  rcases ok_of_bind h with ⟨connstr, -, h⟩
  cases h
  exact ⟨p, hp, hn⟩

theorem httpMaxThreads_of_main (h : main setlocale hw s.getenv s.keyFile s.args = .ok st) :
    st.httpMaxThreads =
      match s.askedThreads with
      | some v => clampThreads hw (received v)
      | none => earlyInitialize hw s.getenv := by
  rcases threads_of_main h with ⟨p, hp, hthreads⟩
  rw [mainThreads_eq] at hthreads
  have hparsed := (parsed_of_ok hp).threads
  cases hconfig : s.config .threads with
  | none =>
    rw [hconfig] at hthreads
    rw [Sources.askedThreads, hconfig, Option.none_or, ← Except.ok.inj hthreads, hparsed,
      Sources.optionThreads]
    cases optionValue .threads s.args <;> rfl
  | some v =>
    simp only [hconfig, Sources.configThreads, Option.bind_some] at hthreads
    rw [Sources.askedThreads, hconfig, Option.some_or]
    cases hnumber : strtol v with
    | none =>
      rw [hnumber] at hthreads
      cases hthreads
    | some found =>
      rcases found with ⟨n, rest⟩
      rw [hnumber] at hthreads
      cases rest with
      | nil =>
        show st.httpMaxThreads = clampThreads hw (received v)
        rw [received_of_strtol hnumber]
        exact (Except.ok.inj hthreads).symm
      | cons c rest => cases hthreads

end Main

/-- **Exactness.** The number of threads is sane exactly when the processor is known
or at most four threads are asked for, and the 32 bits received are kept in order. -/
theorem threadsSane_iff (setlocale : Text → Option Text) (hw : BitVec 32) {s s' : Sources}
    {st st' : Start} (h : main setlocale hw.toNat s.getenv s.keyFile s.args = .ok st)
    (h' : main setlocale hw.toNat s'.getenv s'.keyFile s'.args = .ok st') :
    ThreadsSane hw.toNat s s' st st' ↔
      BoundsKept hw.toNat s ∧
        ∀ v v', s.askedThreads = some v → s'.askedThreads = some v' →
          signedNumber v ≤ signedNumber v' → OrderKept hw.toNat (received v) (received v') := by
  have hlt := hw.isLt
  have hst := httpMaxThreads_of_main h
  have hst' := httpMaxThreads_of_main h'
  have hlow : 2 ≤ st.httpMaxThreads := by
    rw [hst]
    split
    · exact two_le_clampThreads hlt _
    · unfold earlyInitialize
      split <;> exact two_le_clampEarly _ _
  have hhigh : st.httpMaxThreads ≤ max 4 hw.toNat ↔ BoundsKept hw.toNat s := by
    rw [hst, BoundsKept]
    cases s.askedThreads with
    | some v => simpa using clampThreads_le_iff hlt (received_lt v)
    | none =>
      have hearly : earlyInitialize hw.toNat s.getenv ≤ max 4 hw.toNat ↔ hw.toNat ≠ 0 := by
        unfold earlyInitialize
        split <;> exact clampEarly_le_iff hlt _
      simpa using hearly
  have horder : ∀ v v', s.askedThreads = some v → s'.askedThreads = some v' →
      (st.httpMaxThreads ≤ st'.httpMaxThreads ↔
        OrderKept hw.toNat (received v) (received v')) := by
    intro v v' hv hv'
    rw [hst, hst', hv, hv']
    exact clampThreads_le_clampThreads_iff hlt _ _
  constructor
  · intro hsane
    refine ⟨hhigh.mp hsane.atMost, fun v v' hv hv' hle => ?_⟩
    exact (horder v v' hv hv').mp (hsane.order v v' hv hv' hle)
  · rintro ⟨hbounds, hkept⟩
    refine ⟨hlow, hhigh.mpr hbounds, fun v v' hv hv' hle => ?_⟩
    exact (horder v v' hv hv').mpr (hkept v v' hv hv' hle)

/-- A start with options only. -/
def withOptions (args : List (ProgOption × Text)) : Sources := ⟨args, fun _ => none, fun _ => none⟩

theorem threadsSane_iff_fourThenSix :
    ThreadsSane 16 (withOptions [(.threads, "4".toList)]) (withOptions [(.threads, "6".toList)])
        ⟨4, none, none, [], none, []⟩ ⟨6, none, none, [], none, []⟩ ↔
      BoundsKept 16 (withOptions [(.threads, "4".toList)]) ∧
        ∀ v v', (withOptions [(.threads, "4".toList)]).askedThreads = some v →
          (withOptions [(.threads, "6".toList)]).askedThreads = some v' →
          signedNumber v ≤ signedNumber v' → OrderKept 16 (received v) (received v') :=
  threadsSane_iff some 16#32 (by rfl) (by rfl)

/-- An unknown processor gets a thread for every 32-bit number, and on eight
processors seven threads are more than eight. -/
theorem threads_out_of_bounds :
    main some 0 (withOptions []).getenv (withOptions []).keyFile (withOptions []).args =
        .ok ⟨4294967295, none, none, [], none, []⟩ ∧
      main some 8 (withOptions []).getenv (withOptions []).keyFile [(.threads, "7".toList)] =
        .ok ⟨7, none, none, [], none, []⟩ ∧
      main some 8 (withOptions []).getenv (withOptions []).keyFile [(.threads, "8".toList)] =
        .ok ⟨4, none, none, [], none, []⟩ ∧
      ¬ ThreadsSane 0 (withOptions []) (withOptions []) ⟨4294967295, none, none, [], none, []⟩
        ⟨4294967295, none, none, [], none, []⟩ ∧
      ¬ ThreadsSane 8 (withOptions [(.threads, "7".toList)]) (withOptions [(.threads, "8".toList)])
        ⟨7, none, none, [], none, []⟩ ⟨4, none, none, [], none, []⟩ := by
  refine ⟨by rfl, by rfl, by rfl, fun hsane => ?_, fun hsane => ?_⟩
  · exact absurd hsane.atMost (by decide)
  · exact absurd (hsane.order "7".toList "8".toList rfl rfl (by decide)) (by decide)

end HelpCovid.Startup
