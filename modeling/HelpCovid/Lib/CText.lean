import Mathlib.Data.List.Infix
import Mathlib.Data.List.TakeWhile
import Mathlib.Tactic.Common

/-!
# C strings and the scanning functions of the C library

A text is a list of characters, each standing for one byte. The file has the
parts of `<string.h>`, `<ctype.h>` and `<stdio.h>` that the development scans
its inputs with (`strstr`, `isspace`, the literal, blank and `%n[...]`
directives of `sscanf`), C++'s `std::getline`, and the laws about them that do
not depend on what is scanned. Character classes are those of the "C" locale.
-/

/-- A byte string. -/
abbrev Text := List Char

namespace CText

/-! ## Character classes -/

/-- `isspace`. -/
def isSpace (c : Char) : Bool :=
  c == ' ' || c == '\t' || c == '\n' || c == '\x0b' || c == '\x0c' || c == '\r'

/-- The scan set `[A-Za-z0-9_]`. -/
def isNameChar (c : Char) : Bool := c.isAlphanum || c == '_'

/-- `c_str()`: what C functions see of a C++ string. -/
def cstr (s : Text) : Text := s.takeWhile (· != '\x00')

theorem cstr_of_notMem {s : Text} (h : '\x00' ∉ s) : cstr s = s := by
  apply List.takeWhile_eq_self_iff.mpr
  intro c hc
  have hne : c ≠ '\x00' := fun heq => h (heq ▸ hc)
  simpa using hne

theorem cstr_cons {c : Char} (h : c ≠ '\x00') (s : Text) : cstr (c :: s) = c :: cstr s :=
  List.takeWhile_cons_of_pos (bne_iff_ne.mpr h)

theorem cstr_append {a : Text} (h : '\x00' ∉ a) (b : Text) : cstr (a ++ b) = a ++ cstr b := by
  refine List.takeWhile_append_of_pos fun c hc => ?_
  rw [bne_iff_ne]
  exact fun heq => h (heq ▸ hc)

/-! ## `strstr` -/

/-- `strstr(s, needle)`, as the offset of the first occurrence. -/
def strstr (needle : Text) : Text → Option Nat
  | [] => if needle.isEmpty then some 0 else none
  | c :: cs =>
      if needle.isPrefixOf (c :: cs) then some 0 else (strstr needle cs).map (· + 1)

theorem strstr_of_start {needle s : Text} (h : needle <+: s) : strstr needle s = some 0 := by
  cases s with
  | nil => simp [strstr, List.prefix_nil.mp h]
  | cons c cs => simp [strstr, h]

theorem strstr_cons_of_not_start {needle cs : Text} {c : Char} (h : ¬ needle <+: c :: cs) :
    strstr needle (c :: cs) = (strstr needle cs).map (· + 1) := by
  simp [strstr, h]

/-- The occurrence found is one: the text splits around it. -/
theorem start_drop_of_strstr {needle s : Text} {i : Nat} (h : strstr needle s = some i) :
    needle <+: s.drop i := by
  induction s generalizing i with
  | nil =>
      simp only [strstr] at h
      split at h
      · next hn => simp [List.isEmpty_iff.mp hn]
      · simp at h
  | cons c cs ih =>
      by_cases hp : needle <+: c :: cs
      · rw [strstr_of_start hp] at h
        obtain rfl : 0 = i := by simpa using h
        simpa using hp
      · rw [strstr_cons_of_not_start hp] at h
        rcases Option.map_eq_some_iff.mp h with ⟨j, hj, rfl⟩
        simpa using ih hj

theorem strstr_split {needle s : Text} {i : Nat} (h : strstr needle s = some i) :
    s = s.take i ++ needle ++ s.drop (i + needle.length) := by
  rcases start_drop_of_strstr h with ⟨rest, hrest⟩
  have hdrop : s.drop (i + needle.length) = rest := by
    rw [← List.drop_drop, ← hrest, List.drop_left]
  rw [hdrop, List.append_assoc, hrest, List.take_append_drop]

theorem strstr_le_length {needle s : Text} {i : Nat} (h : strstr needle s = some i)
    (hn : needle ≠ []) : i + needle.length ≤ s.length := by
  have hlen := (start_drop_of_strstr h).length_le
  have hpos : 0 < needle.length := List.length_pos_iff.mpr hn
  rw [List.length_drop] at hlen
  omega

theorem length_take_of_strstr {needle s : Text} {i : Nat} (h : strstr needle s = some i)
    (hn : needle ≠ []) : (s.take i).length = i := by
  have hin := strstr_le_length h hn
  rw [List.length_take]
  omega

/-- An occurrence stays the first one when more text follows. -/
theorem strstr_append {needle s : Text} {i : Nat} (h : strstr needle s = some i) (t : Text)
    (hn : needle ≠ []) : strstr needle (s ++ t) = some i := by
  induction s generalizing i with
  | nil => simp [strstr, hn] at h
  | cons c cs ih =>
      by_cases hp : needle <+: c :: cs
      · rw [strstr_of_start hp] at h
        rw [strstr_of_start (hp.trans (List.prefix_append _ t)), h]
      · have hlong : ¬ needle <+: c :: (cs ++ t) := by
          intro hpt
          have hlen : needle.length ≤ (c :: cs).length := by
            rw [strstr_cons_of_not_start hp] at h
            rcases Option.map_eq_some_iff.mp h with ⟨j, hj, rfl⟩
            have hin := strstr_le_length hj hn
            simp only [List.length_cons]
            omega
          exact hp (List.prefix_of_prefix_length_le hpt (List.prefix_append (c :: cs) t) hlen)
        rw [strstr_cons_of_not_start hp] at h
        rw [List.cons_append, strstr_cons_of_not_start hlong]
        rcases Option.map_eq_some_iff.mp h with ⟨j, hj, rfl⟩
        rw [ih hj, Option.map_some]

/-- A text without an occurrence delays the search by its length, where no
occurrence begins in it: none straddles the seam. -/
theorem strstr_append_of_forall {needle a b : Text}
    (h : ∀ i < a.length, ¬ needle <+: (a ++ b).drop i) :
    strstr needle (a ++ b) = (strstr needle b).map (· + a.length) := by
  induction a with
  | nil => simp
  | cons c cs ih =>
      have h0 : ¬ needle <+: c :: (cs ++ b) := by simpa using h 0 (by simp)
      have hrest : ∀ i < cs.length, ¬ needle <+: (cs ++ b).drop i := by
        intro i hi
        simpa using h (i + 1) (by simpa using hi)
      rw [List.cons_append, strstr_cons_of_not_start h0, ih hrest]
      cases strstr needle b <;> simp [Nat.add_assoc]

/-- A failing search means that no occurrence begins anywhere. -/
theorem not_start_drop_of_strstr_none {needle s : Text} (h : strstr needle s = none) (i : Nat)
    (hn : needle ≠ []) : ¬ needle <+: s.drop i := by
  induction s generalizing i with
  | nil => simpa using hn
  | cons c cs ih =>
      by_cases hp : needle <+: c :: cs
      · rw [strstr_of_start hp] at h
        simp at h
      · rw [strstr_cons_of_not_start hp, Option.map_eq_none_iff] at h
        cases i with
        | zero => simpa using hp
        | succ i => simpa using ih h i

/-- The occurrence found is the first. -/
theorem strstr_le_of_append {needle front back : Text} {i : Nat}
    (h : strstr needle (front ++ (needle ++ back)) = some i) : i ≤ front.length := by
  induction front generalizing i with
  | nil =>
      rw [List.nil_append, strstr_of_start (List.prefix_append _ _)] at h
      exact (Option.some.inj h).symm.le
  | cons c front ih =>
      by_cases hstart : needle <+: c :: (front ++ (needle ++ back))
      · rw [List.cons_append, strstr_of_start hstart] at h
        exact (Option.some.inj h).symm.le.trans (Nat.zero_le _)
      · rw [List.cons_append, strstr_cons_of_not_start hstart] at h
        rcases Option.map_eq_some_iff.mp h with ⟨j, hj, rfl⟩
        exact Nat.succ_le_succ (ih hj)

/-- The first occurrence is the first one in what is left of the text, while it is
not passed. -/
theorem strstr_drop {needle s : Text} {i j : Nat} (h : strstr needle s = some i) (hj : j ≤ i) :
    strstr needle (s.drop j) = some (i - j) := by
  induction j generalizing s i with
  | zero => simpa using h
  | succ j ih =>
      cases s with
      | nil =>
          simp only [strstr] at h
          split at h
          · obtain rfl : 0 = i := by simpa using h
            exact absurd hj (Nat.not_succ_le_zero j)
          · cases h
      | cons c s =>
          by_cases hstart : needle <+: c :: s
          · rw [strstr_of_start hstart] at h
            obtain rfl : 0 = i := by simpa using h
            exact absurd hj (Nat.not_succ_le_zero j)
          · rw [strstr_cons_of_not_start hstart] at h
            rcases Option.map_eq_some_iff.mp h with ⟨k, hk, rfl⟩
            rw [List.drop_succ_cons, ih hk (Nat.le_of_succ_le_succ hj), Nat.add_sub_add_right]

/-- The text up to the first occurrence, with the needle put back. -/
theorem strstr_take_append {needle s : Text} {i : Nat} (h : strstr needle s = some i)
    (hn : needle ≠ []) : strstr needle (s.take i ++ needle) = some (s.take i).length := by
  have hlen : (s.take i).length = i := length_take_of_strstr h hn
  cases hfound : strstr needle (s.take i ++ needle) with
  | none =>
      refine absurd ?_ (not_start_drop_of_strstr_none hfound i hn)
      rw [List.drop_left' hlen]
  | some j =>
      -- an occurrence in the shorter text is one in the whole text
      have hwhole := strstr_append hfound (s.drop (i + needle.length)) hn
      rw [← strstr_split h, h] at hwhole
      rw [hlen, Option.some.inj hwhole]

/-- The first character of the needle tells where it can occur: a text without
it delays the search by its length. -/
theorem strstr_append_of_notMem {needle a : Text} {x : Char} (b : Text)
    (hx : needle.head? = some x) (ha : x ∉ a) :
    strstr needle (a ++ b) = (strstr needle b).map (· + a.length) := by
  apply strstr_append_of_forall
  intro i hi hp
  rcases List.head?_eq_some_iff.mp hx with ⟨ys, hneedle⟩
  have hhead : (a ++ b).drop i = a[i] :: (a ++ b).drop (i + 1) := by
    rw [List.drop_eq_getElem_cons (by simp; omega), List.getElem_append_left hi]
  rw [hneedle, hhead] at hp
  have heq : x = a[i] := (List.cons_prefix_cons.mp hp).1
  exact ha (heq ▸ List.getElem_mem hi)

/-- A search succeeds exactly on the parts of a text. -/
theorem strstr_isSome_iff {needle s : Text} (hne : needle ≠ []) :
    (strstr needle s).isSome = true ↔ needle <:+: s := by
  constructor
  · intro h
    rcases Option.isSome_iff_exists.mp h with ⟨i, hi⟩
    exact ⟨s.take i, s.drop (i + needle.length), (strstr_split hi).symm⟩
  · rintro ⟨front, back, rfl⟩
    by_contra hnone
    rw [Option.not_isSome_iff_eq_none] at hnone
    have hstart := not_start_drop_of_strstr_none hnone front.length hne
    rw [List.append_assoc, List.drop_left] at hstart
    exact hstart (List.prefix_append _ _)

/-- A text without some character of the needle does not have the needle. -/
theorem strstr_eq_none_of_notMem {needle s : Text} {x : Char} (hx : x ∈ needle) (hs : x ∉ s) :
    strstr needle s = none := by
  by_contra hfound
  have hpart := (strstr_isSome_iff (List.ne_nil_of_mem hx)).mp (Option.isSome_iff_ne_none.mpr hfound)
  exact hs (hpart.subset hx)

/-- A character that the needle does not end with adds no occurrence at the end. -/
theorem strstr_concat_of_last {needle s : Text} {x : Char} (hne : needle ≠ [])
    (hx : needle.getLast? ≠ some x) : strstr needle (s ++ [x]) = strstr needle s := by
  cases hs : strstr needle s with
  | some i => exact strstr_append hs [x] hne
  | none =>
    by_contra hfound
    obtain ⟨front, back, hsplit⟩ :=
      (strstr_isSome_iff hne).mp (Option.isSome_iff_ne_none.mpr hfound)
    rcases List.eq_nil_or_concat back with rfl | ⟨back, y, rfl⟩
    · -- the last character is that of the needle
      rw [List.append_nil] at hsplit
      have hlast := congrArg List.getLast? hsplit
      rw [List.getLast?_append_of_ne_nil _ hne, List.getLast?_concat] at hlast
      exact hx hlast
    · rw [List.concat_eq_append, ← List.append_assoc] at hsplit
      have hpart : needle <:+: s := ⟨front, back, (List.append_inj' hsplit rfl).1⟩
      have hsome := (strstr_isSome_iff hne).mpr hpart
      rw [hs] at hsome
      exact absurd hsome Bool.false_ne_true

theorem strstr_concat_of_notMem {needle s : Text} {x : Char} (hne : needle ≠ [])
    (hx : x ∉ needle) : strstr needle (s ++ [x]) = strstr needle s :=
  strstr_concat_of_last hne fun hlast => hx (List.mem_of_getLast? hlast)

/-! ## `sscanf` directives -/

/-- A literal of the format: the input must start with it. -/
def literal (p s : Text) : Option Text := if p.isPrefixOf s then some (s.drop p.length) else none

/-- A blank of the format: it skips any white space, also none. -/
def blanks (s : Text) : Text := s.dropWhile isSpace

/-- `%n[...]`: at most `width` characters of the set, at least one. The result
is the field and the input left. -/
def scanSet (width : Nat) (p : Char → Bool) (s : Text) : Option (Text × Text) :=
  let field := (s.take width).takeWhile p
  if field.isEmpty then none else some (field, s.drop field.length)

@[simp] theorem literal_append (p s : Text) : literal p (p ++ s) = some s := by
  simp [literal]

/-- The field is cut from the characters of the set at the front. -/
theorem scanSet_eq (width : Nat) (p : Char → Bool) (s : Text) :
    scanSet width p s =
      if (s.takeWhile p).take width = [] then none
      else some ((s.takeWhile p).take width, s.drop ((s.takeWhile p).take width).length) := by
  simp only [scanSet, List.take_takeWhile, List.isEmpty_iff]

theorem eq_append_of_literal {p s t : Text} (h : literal p s = some t) : s = p ++ t := by
  unfold literal at h
  split at h
  · next hp =>
      rw [← Option.some.inj h]
      exact (List.prefix_iff_eq_append.mp (List.isPrefixOf_iff_prefix.mp hp)).symm
  · exact absurd h (by simp)

/-- A whole field of the set, not wider than the width, that a character
outside the set or the end of input follows. -/
theorem scanSet_append {width : Nat} {p : Char → Bool} {field : Text} (rest : Text)
    (hne : field ≠ []) (hp : ∀ c ∈ field, p c) (hw : field.length ≤ width)
    (hrest : field.length = width ∨ ∀ c ∈ rest.head?, ¬ p c) :
    scanSet width p (field ++ rest) = some (field, rest) := by
  have htake : ((field ++ rest).take width).takeWhile p = field := by
    rw [List.take_append, List.take_of_length_le hw, List.takeWhile_append_of_pos hp]
    suffices h : (rest.take (width - field.length)).takeWhile p = [] by rw [h, List.append_nil]
    rcases hrest with hfull | hstop
    · simp [hfull]
    · cases rest with
      | nil => simp
      | cons c cs =>
          cases width - field.length with
          | zero => simp
          | succ k => simpa using hstop c (by simp)
  simp [scanSet, htake, hne]

/-- A character of the set begins a field. -/
theorem exists_scanSet (width : Nat) {p : Char → Bool} {c : Char} (h : p c = true) (s : Text) :
    ∃ field rest, scanSet (width + 1) p (c :: s) = some (field, rest) := by
  have hfield : ((c :: s).take (width + 1)).takeWhile p = c :: (s.take width).takeWhile p := by
    rw [List.take_succ_cons, List.takeWhile_cons_of_pos h]
  refine ⟨c :: (s.take width).takeWhile p,
    (c :: s).drop (c :: (s.take width).takeWhile p).length, ?_⟩
  simp only [scanSet, hfield]
  rfl

theorem scanSet_spec {width : Nat} {p : Char → Bool} {s field rest : Text}
    (h : scanSet width p s = some (field, rest)) :
    s = field ++ rest ∧ field ≠ [] ∧ ∀ c ∈ field, p c := by
  simp only [scanSet] at h
  split at h
  · simp at h
  · next hne =>
      simp only [Option.some.injEq, Prod.mk.injEq] at h
      rcases h with ⟨hfield, hrest⟩
      have hpre : field <+: s := by
        rw [← hfield]
        exact (List.takeWhile_prefix _).trans (List.take_prefix _ _)
      refine ⟨?_, ?_, ?_⟩
      · rw [← hrest, hfield]
        exact (List.prefix_iff_eq_append.mp hpre).symm
      · rw [← hfield]
        simpa using hne
      · intro c hc
        rw [← hfield] at hc
        exact List.mem_takeWhile_imp hc

theorem length_le_of_scanSet {width : Nat} {p : Char → Bool} {s field rest : Text}
    (h : scanSet width p s = some (field, rest)) : field.length ≤ width := by
  simp only [scanSet] at h
  split at h
  · exact absurd h (by simp)
  · rw [← (Prod.mk.inj (Option.some.inj h)).1]
    exact ((List.takeWhile_prefix _).length_le).trans (List.length_take_le _ _)

/-- A field that is not full ends where the set does. -/
theorem scanSet_maximal {width : Nat} {p : Char → Bool} {s field rest : Text}
    (h : scanSet width p s = some (field, rest)) :
    field.length = width ∨ ∀ c ∈ rest.head?, ¬ p c := by
  have hw := length_le_of_scanSet h
  rcases scanSet_spec h with ⟨rfl, -, hp⟩
  rcases Nat.lt_or_eq_of_le hw with hshort | hfull
  · right
    intro c hc hpc
    rcases List.head?_eq_some_iff.mp hc with ⟨cs, rfl⟩
    -- the character would be in the field
    have htake : ((field ++ c :: cs).take width).takeWhile p =
        field ++ c :: (cs.take (width - field.length - 1)).takeWhile p := by
      rw [List.take_append, List.take_of_length_le hw, List.takeWhile_append_of_pos hp,
        List.take_cons (by omega), List.takeWhile_cons_of_pos hpc]
    simp only [scanSet, htake] at h
    split at h
    · cases h
    · have hlen := congrArg List.length (Prod.mk.inj (Option.some.inj h)).1
      simp only [List.length_append, List.length_cons] at hlen
      omega
  · exact .inl hfull

/-! ## Lines -/

/-- The lines `std::getline` reads one after the other. A newline ends a line;
the text after the last newline is a line when it is not empty. -/
def lines : Text → List Text
  | [] => []
  | c :: cs =>
      if c = '\n' then [] :: lines cs
      else match lines cs with
        | [] => [[c]]
        | l :: ls => (c :: l) :: ls

/-- A file of lines, each ended by a newline. -/
def unlines (ls : List Text) : Text := ls.flatMap (· ++ ['\n'])

@[simp] theorem unlines_nil : unlines [] = [] := rfl

@[simp] theorem length_unlines_cons (l : Text) (ls : List Text) :
    (unlines (l :: ls)).length = l.length + 1 + (unlines ls).length := by
  simp [unlines]
  omega

theorem unlines_append (a b : List Text) : unlines (a ++ b) = unlines a ++ unlines b :=
  List.flatMap_append

theorem length_unlines_append (a b : List Text) :
    (unlines (a ++ b)).length = (unlines a).length + (unlines b).length := by
  rw [unlines_append, List.length_append]

theorem lines_append_newline {l : Text} (h : '\n' ∉ l) (t : Text) :
    lines (l ++ '\n' :: t) = l :: lines t := by
  induction l with
  | nil => simp [lines]
  | cons c cs ih =>
      simp only [List.mem_cons, not_or] at h
      have hc : c ≠ '\n' := fun heq => h.1 heq.symm
      rw [List.cons_append, lines, if_neg hc, ih h.2]

/-- The lines of a file of lines. -/
theorem lines_unlines {ls : List Text} (h : ∀ l ∈ ls, '\n' ∉ l) : lines (unlines ls) = ls := by
  induction ls with
  | nil => rfl
  | cons l ls ih =>
      have hcons : unlines (l :: ls) = l ++ '\n' :: unlines ls := by simp [unlines]
      rw [hcons, lines_append_newline (h l List.mem_cons_self),
        ih fun l' hl' => h l' (List.mem_cons_of_mem _ hl')]

/-- A text that ends with a newline has its lines to itself. -/
theorem lines_append_of_newline (a b : Text) : lines (a ++ '\n' :: b) = lines (a ++ ['\n']) ++ lines b := by
  induction a with
  | nil => simp [lines]
  | cons c cs ih =>
      rw [List.cons_append, List.cons_append, lines, lines]
      by_cases hc : c = '\n'
      · rw [if_pos hc, if_pos hc, ih, List.cons_append]
      · rw [if_neg hc, if_neg hc, ih]
        have hne : lines (cs ++ ['\n']) ≠ [] := by
          cases cs with
          | nil => simp [lines]
          | cons d ds =>
              rw [List.cons_append, lines]
              split
              · exact List.cons_ne_nil _ _
              · split <;> exact List.cons_ne_nil _ _
        rcases List.exists_cons_of_ne_nil hne with ⟨l, ls, hls⟩
        rw [hls]
        rfl

/-- Every line but the last one had a newline. -/
theorem length_unlines_lines (s : Text) : (unlines (lines s)).length ≤ s.length + 1 := by
  induction s with
  | nil => simp [lines, unlines]
  | cons c cs ih =>
      rw [lines]
      split
      · simp only [unlines, List.flatMap_cons, List.nil_append, List.length_append,
          List.length_cons, List.length_nil] at ih ⊢
        omega
      · cases hls : lines cs with
        | nil => simp [unlines]
        | cons l ls =>
            rw [hls] at ih
            simp only [unlines, List.flatMap_cons, List.length_append, List.length_cons,
              List.length_nil] at ih ⊢
            omega

theorem mem_of_mem_lines {s l : Text} {c : Char} (hl : l ∈ lines s) (hc : c ∈ l) : c ∈ s := by
  induction s generalizing l with
  | nil => simp [lines] at hl
  | cons d ds ih =>
      simp only [lines] at hl
      split at hl
      · rcases List.mem_cons.mp hl with rfl | hl
        · simp at hc
        · exact List.mem_cons_of_mem _ (ih hl hc)
      · split at hl
        · obtain rfl : l = [d] := by simpa using hl
          exact List.mem_cons.mpr (Or.inl (by simpa using hc))
        · next m ms hm =>
            rcases List.mem_cons.mp hl with rfl | hl
            · rcases List.mem_cons.mp hc with rfl | hc
              · simp
              · exact List.mem_cons_of_mem _ (ih (by simp [hm]) hc)
            · exact List.mem_cons_of_mem _ (ih (by simp [hm, hl]) hc)

end CText
