import HelpCovid.Lib.CText
import Mathlib.Data.List.DropRight

/-!
# Python strings

The methods of `str` that scripts of the development use. A text is a list of
characters; what is white space is settled by Unicode.
-/

namespace PyText

/-- `str.isspace` of a character. -/
def isSpace (c : Char) : Bool :=
  (9 ≤ c.toNat && c.toNat ≤ 13) || (28 ≤ c.toNat && c.toNat ≤ 32) || c.toNat == 133 ||
    c.toNat == 160 || c.toNat == 5760 || (8192 ≤ c.toNat && c.toNat ≤ 8202) ||
    c.toNat == 8232 || c.toNat == 8233 || c.toNat == 8239 || c.toNat == 8287 || c.toNat == 12288

/-- `strip()` -/
def strip (s : Text) : Text := (s.dropWhile isSpace).rdropWhile isSpace

theorem mem_of_mem_strip {s : Text} {c : Char} (h : c ∈ strip s) : c ∈ s := by
  have hpre := List.rdropWhile_prefix isSpace (l := s.dropWhile isSpace)
  exact (List.dropWhile_suffix isSpace).subset (hpre.subset h)

/-- Other characters at the front keep what follows them from the left. -/
theorem rdropWhile_append {p : Char → Bool} {a : Text} (b : Text)
    (ha : ∀ c ∈ a, p c = false) : (a ++ b).rdropWhile p = a ++ b.rdropWhile p := by
  induction b using List.reverseRecOn with
  | nil =>
    rw [List.append_nil, List.rdropWhile_nil, List.append_nil, List.rdropWhile_eq_self_iff]
    intro hne
    simp [ha _ (List.getLast_mem hne)]
  | append_singleton b c ih =>
    rw [← List.append_assoc]
    by_cases hc : p c = true
    · rw [List.rdropWhile_concat_pos p _ _ hc, List.rdropWhile_concat_pos p _ _ hc, ih]
    · rw [List.rdropWhile_concat_neg p _ _ hc, List.rdropWhile_concat_neg p _ _ hc,
        List.append_assoc]

/-- A character that is no blank stays at the front. -/
theorem strip_cons {c : Char} (hc : isSpace c = false) (s : Text) :
    strip (c :: s) = c :: s.rdropWhile isSpace := by
  rw [strip, List.dropWhile_cons_of_neg (by simp [hc])]
  exact rdropWhile_append (a := [c]) s (by simpa using hc)

theorem strip_eq_self {s : Text} (hfirst : ∀ c ∈ s.head?, isSpace c = false)
    (hlast : ∀ c ∈ s.getLast?, isSpace c = false) : strip s = s := by
  have hdrop : s.dropWhile isSpace = s := by
    cases s with
    | nil => rfl
    | cons c s => rw [List.dropWhile_cons_of_neg (by simp [hfirst c rfl])]
  rw [strip, hdrop, List.rdropWhile_eq_self_iff]
  intro hne
  simpa using hlast _ (List.getLast?_eq_some_getLast hne)

/-- `strip(x)` for one character -/
def stripChar (x : Char) (s : Text) : Text := (s.dropWhile (· == x)).rdropWhile (· == x)

theorem stripChar_sublist (x : Char) (s : Text) : (stripChar x s).Sublist s := by
  have hright : (s.dropWhile (· == x)).rdropWhile (· == x) <+: s.dropWhile (· == x) :=
    List.rdropWhile_prefix _ _
  exact hright.sublist.trans (List.dropWhile_suffix _).sublist

theorem stripChar_cons_self (x : Char) (s : Text) : stripChar x (x :: s) = stripChar x s := by
  rw [stripChar, List.dropWhile_cons_of_pos (p := (· == x)) (beq_self_eq_true x)]
  rfl

theorem dropWhile_of_head? {x : Char} {s : Text} (h : s.head? ≠ some x) :
    s.dropWhile (· == x) = s := by
  cases s with
  | nil => rfl
  | cons c s =>
    refine List.dropWhile_cons_of_neg ?_
    simpa using h

theorem rdropWhile_eq_self_iff {x : Char} {s : Text} :
    s.rdropWhile (· == x) = s ↔ s.getLast? ≠ some x := by
  rw [List.rdropWhile_eq_self_iff]
  constructor
  · intro h hlast
    have hne : s ≠ [] := by
      rintro rfl
      cases hlast
    rw [List.getLast?_eq_some_getLast hne] at hlast
    exact h hne (beq_iff_eq.mpr (Option.some.inj hlast))
  · intro h hne heq
    rw [List.getLast?_eq_some_getLast hne] at h
    exact h (congrArg some (beq_iff_eq.mp heq))

/-- A text is left alone when the character is at neither end. -/
theorem stripChar_eq_self_iff {x : Char} {s : Text} :
    stripChar x s = s ↔ s.head? ≠ some x ∧ s.getLast? ≠ some x := by
  constructor
  · intro h
    have hfirst : s.head? ≠ some x := by
      intro hhead
      rcases List.head?_eq_some_iff.mp hhead with ⟨rest, rfl⟩
      -- the first character is gone
      have hlen := (stripChar_sublist x rest).length_le
      rw [← stripChar_cons_self, h, List.length_cons] at hlen
      omega
    rw [stripChar, dropWhile_of_head? hfirst] at h
    exact ⟨hfirst, rdropWhile_eq_self_iff.mp h⟩
  · rintro ⟨hfirst, hlast⟩
    rw [stripChar, dropWhile_of_head? hfirst]
    exact rdropWhile_eq_self_iff.mpr hlast

/-- The character at both ends does not count. -/
theorem stripChar_wrap (x : Char) (s : Text) : stripChar x (x :: (s ++ [x])) = stripChar x s := by
  rw [stripChar_cons_self, stripChar, stripChar, List.dropWhile_append]
  split
  · next hnil =>
    rw [List.isEmpty_iff.mp hnil, List.dropWhile_cons_of_pos (p := (· == x)) (beq_self_eq_true x)]
    rfl
  · exact List.rdropWhile_concat_pos (· == x) _ _ (beq_self_eq_true x)

/-- After other characters only the end is stripped. -/
theorem stripChar_append {x : Char} {a : Text} (b : Text) (hne : a ≠ []) (ha : x ∉ a) :
    stripChar x (a ++ b) = a ++ b.rdropWhile (· == x) := by
  have hother : ∀ c ∈ a, (c == x) = false := by
    intro c hc
    rw [beq_eq_false_iff_ne]
    exact fun heq => ha (heq ▸ hc)
  have hfirst : (a ++ b).head? ≠ some x := by
    rw [List.head?_append_of_ne_nil a hne]
    exact fun hhead => ha (List.mem_of_head? hhead)
  rw [stripChar, dropWhile_of_head? hfirst, rdropWhile_append b hother]

/-! ## Splitting at a separator -/

/-- The pieces of a text between the occurrences of `sep`; each turn goes past one. -/
def splitFuel (sep : Text) : Nat → Text → List Text
  | 0, s => [s]
  | fuel + 1, s =>
      match CText.strstr sep s with
      | none => [s]
      | some i => s.take i :: splitFuel sep fuel (s.drop (i + sep.length))

/-- `s.split(sep)`, where `sep` is not empty. -/
def split (sep s : Text) : List Text := splitFuel sep s.length s

/-- The text before the first `sep`. -/
def upTo (sep s : Text) : Text :=
  match CText.strstr sep s with
  | none => s
  | some i => s.take i

theorem mem_of_mem_upTo {sep s : Text} {c : Char} (h : c ∈ upTo sep s) : c ∈ s := by
  unfold upTo at h
  split at h
  · exact h
  · exact List.mem_of_mem_take h

/-- The first character of the separator tells where the text can end. -/
theorem upTo_append_of_notMem {sep a : Text} {x : Char} (b : Text) (hx : sep.head? = some x)
    (ha : x ∉ a) : upTo sep (a ++ b) = a ++ upTo sep b := by
  unfold upTo
  rw [CText.strstr_append_of_notMem b hx ha]
  cases CText.strstr sep b with
  | none => rfl
  | some i =>
      show (a ++ b).take (i + a.length) = a ++ b.take i
      rw [Nat.add_comm, List.take_length_add_append]

theorem head?_splitFuel {sep s : Text} {fuel : Nat} (hsep : sep ≠ []) (h : s.length ≤ fuel) :
    (splitFuel sep fuel s).head? = some (upTo sep s) := by
  cases fuel with
  | zero =>
      obtain rfl : s = [] := List.length_eq_zero_iff.mp (Nat.le_zero.mp h)
      simp [splitFuel, upTo, CText.strstr, hsep]
  | succ fuel =>
      unfold splitFuel upTo
      cases CText.strstr sep s <;> rfl

/-- The second piece is there when the separator is. -/
theorem getElem?_one_split {sep : Text} (hsep : sep ≠ []) (s : Text) :
    (split sep s)[1]? =
      (CText.strstr sep s).map fun i => upTo sep (s.drop (i + sep.length)) := by
  unfold split
  cases hlen : s.length with
  | zero =>
      obtain rfl : s = [] := List.length_eq_zero_iff.mp hlen
      simp [splitFuel, CText.strstr, hsep]
  | succ n =>
      unfold splitFuel
      cases hfind : CText.strstr sep s with
      | none => rfl
      | some i =>
          have hpos : 0 < sep.length := List.length_pos_iff.mpr hsep
          have hrest : (s.drop (i + sep.length)).length ≤ n := by
            rw [List.length_drop]
            omega
          show (splitFuel sep n (s.drop (i + sep.length)))[0]? = _
          rw [← List.head?_eq_getElem?, head?_splitFuel hsep hrest]
          rfl

/-- What is before a separator of one character. -/
theorem upTo_singleton (x : Char) (s : Text) : upTo [x] s = s.takeWhile (· != x) := by
  have hfront : x ∉ s.takeWhile (· != x) := by
    intro hmem
    have hne := List.mem_takeWhile_imp hmem
    simp at hne
  have hsplit : s.takeWhile (· != x) ++ s.dropWhile (· != x) = s := List.takeWhile_append_dropWhile
  conv_lhs => rw [← hsplit]
  rw [upTo_append_of_notMem _ rfl hfront]
  have hhead := List.head?_dropWhile_not (· != x) s
  cases hrest : s.dropWhile (· != x) with
  | nil => simp [upTo, CText.strstr]
  | cons c rest =>
      rw [hrest] at hhead
      obtain rfl : c = x := by simpa using hhead
      have hstart : CText.strstr [c] (c :: rest) = some 0 :=
        CText.strstr_of_start (List.prefix_append [c] rest)
      rw [upTo, hstart]
      simp

/-- The second piece of `key=value`, up to the next separator. -/
theorem getElem?_one_split_singleton {x : Char} {a : Text} (ha : x ∉ a) (b : Text) :
    (split [x] (a ++ x :: b))[1]? = some (b.takeWhile (· != x)) := by
  have hstart : CText.strstr [x] (x :: b) = some 0 :=
    CText.strstr_of_start (List.prefix_append [x] b)
  rw [getElem?_one_split (List.cons_ne_nil x []),
    CText.strstr_append_of_notMem (x :: b) (x := x) rfl ha, hstart, ← upTo_singleton]
  simp

/-- `s.split(x, 1)`: the first separator alone counts. -/
def splitOnce (x : Char) (s : Text) : List Text :=
  match s.dropWhile (· != x) with
  | [] => [s]
  | _ :: rest => [s.takeWhile (· != x), rest]

theorem splitOnce_append {x : Char} {a : Text} (ha : x ∉ a) (b : Text) :
    splitOnce x (a ++ x :: b) = [a, b] := by
  have hall : ∀ c ∈ a, (c != x) = true := by
    intro c hc
    exact bne_iff_ne.mpr fun heq => ha (heq ▸ hc)
  have hself : ¬ (x != x) = true := by simp
  have hdrop : (a ++ x :: b).dropWhile (· != x) = x :: b := by
    rw [List.dropWhile_append_of_pos hall, List.dropWhile_cons_of_neg (p := (· != x)) hself]
  have htake : (a ++ x :: b).takeWhile (· != x) = a := by
    rw [List.takeWhile_append_of_pos hall, List.takeWhile_cons_of_neg (p := (· != x)) hself,
      List.append_nil]
  simp only [splitOnce, hdrop, htake]

/-! ## Words -/

/-- `s.split()` -/
def words (s : Text) : List Text := (s.splitOnP isSpace).filter fun w => !w.isEmpty

/-- Words end at a blank. -/
theorem words_append_cons {c : Char} (hc : isSpace c = true) (x y : Text) :
    words (x ++ c :: y) = words x ++ words y := by
  rw [words, List.splitOnP_append_cons x y hc, List.filter_append, words, words]

theorem words_cons {c : Char} (hc : isSpace c = true) (s : Text) : words (c :: s) = words s :=
  words_append_cons hc [] s

theorem words_append_of_gap {gap : Text} (h : ∀ c ∈ gap, isSpace c = true) (s : Text) :
    words (gap ++ s) = words s := by
  induction gap with
  | nil => rfl
  | cons c gap ih =>
      rw [List.forall_mem_cons] at h
      rw [List.cons_append, words_cons h.1, ih h.2]

theorem words_of_word {w : Text} (hne : w ≠ []) (h : ∀ c ∈ w, isSpace c = false) :
    words w = [w] := by
  rw [words, List.splitOnP_eq_singleton h]
  simp [hne]

/-- A blank, or nothing, follows. -/
theorem words_append {rest : Text} (h : ∀ c ∈ rest.head?, isSpace c = true) (s : Text) :
    words (s ++ rest) = words s ++ words rest := by
  cases rest with
  | nil => simp [words]
  | cons c rest =>
      have hc : isSpace c = true := h c rfl
      rw [words_append_cons hc, words_cons hc]

/-- `w` is the first word of `s`. -/
def IsFirstWord (s w : Text) : Prop :=
  ∃ gap rest, s = gap ++ (w ++ rest) ∧ (∀ c ∈ gap, isSpace c = true) ∧ w ≠ [] ∧
    (∀ c ∈ w, isSpace c = false) ∧ ∀ c ∈ rest.head?, isSpace c = true

theorem head?_splitOnP (s : Text) :
    (s.splitOnP isSpace).head? = some (s.takeWhile fun c => !isSpace c) := by
  induction s with
  | nil => rfl
  | cons c s ih =>
      rw [List.splitOnP_cons_eq_if_modifyHead]
      cases hc : isSpace c with
      | true => simp [hc]
      | false =>
          rw [if_neg Bool.false_ne_true, List.head?_modifyHead, ih]
          simp [hc]

theorem head?_words (s : Text) :
    (words s).head? =
      if (s.dropWhile isSpace).isEmpty then none
      else some ((s.dropWhile isSpace).takeWhile fun c => !isSpace c) := by
  unfold words
  induction s with
  | nil => rfl
  | cons c s ih =>
      rw [List.splitOnP_cons_eq_if_modifyHead]
      cases hc : isSpace c with
      | true => simpa [hc] using ih
      | false =>
          rcases List.exists_cons_of_ne_nil (List.splitOnP_ne_nil isSpace s) with ⟨w, ws, hws⟩
          have hhead := head?_splitOnP s
          rw [hws] at hhead ⊢
          simp only [List.head?_cons, Option.some.injEq] at hhead
          simp [hc, hhead]

theorem head?_words_eq_some_iff {s w : Text} : (words s).head? = some w ↔ IsFirstWord s w := by
  rw [head?_words]
  constructor
  · intro h
    split at h
    · cases h
    · next hne =>
        obtain rfl := Option.some.inj h
        refine ⟨s.takeWhile isSpace, (s.dropWhile isSpace).dropWhile fun c => !isSpace c, ?_, ?_, ?_,
          ?_, ?_⟩
        · rw [List.takeWhile_append_dropWhile, List.takeWhile_append_dropWhile]
        · exact fun c hc => List.mem_takeWhile_imp hc
        · -- the first character left is not a blank
          intro hnil
          have hleft : s.dropWhile isSpace ≠ [] := by
            intro hempty
            rw [hempty] at hne
            exact hne rfl
          rcases List.exists_cons_of_ne_nil hleft with ⟨c, t, hct⟩
          have hc := List.head?_dropWhile_not isSpace s
          rw [hct] at hc hnil
          simp only [List.head?_cons] at hc
          simp [hc] at hnil
        · intro c hc
          simpa using List.mem_takeWhile_imp hc
        · intro c hc
          have hrest := List.head?_dropWhile_not (fun c => !isSpace c) (s.dropWhile isSpace)
          rw [Option.mem_def.mp hc] at hrest
          simpa using hrest
  · rintro ⟨gap, rest, rfl, hgap, hne, hw, hrest⟩
    rcases List.exists_cons_of_ne_nil hne with ⟨c, w, rfl⟩
    have hc : isSpace c = false := hw c List.mem_cons_self
    have hdrop : (gap ++ (c :: w ++ rest)).dropWhile isSpace = c :: w ++ rest := by
      rw [List.dropWhile_append_of_pos hgap, List.cons_append, List.dropWhile_cons, hc]
      rfl
    have htake : (c :: w ++ rest).takeWhile (fun c => !isSpace c) = c :: w := by
      rw [List.takeWhile_append_of_pos fun d hd => by simp [hw d hd]]
      cases rest with
      | nil => simp
      | cons d rest => simp [hrest d (by simp)]
    rw [hdrop, if_neg (by simp), htake]

end PyText
