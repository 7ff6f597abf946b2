import HelpCovid.Template.Scanner
import HelpCovid.Template.Segments
import Mathlib.Tactic.IntervalCases

/-!
# The scanning loop against the reference segmentation

`scanLoop` finds the start of a markup and its end by two searches from the
same place, six characters apart. So the end it finds is the end of the markup
only when the text before the markup has no `?>` of its own from its seventh
character on; the one exception is a `?>` that ends right where the markup
starts. `StrayFree` is that condition on a line, and `scanLoop_eq` says that
the loop writes the pieces of a stray-free line and throws
`std::length_error` on any other.
-/

namespace HelpCovid.Template

open CText

/-- The text before a markup holds no `?>` that the search for the end of the
markup would take for it. -/
def GapClear (gap : Text) : Prop :=
  ∀ i, strstr closing (gap.drop opening.length) = some i →
    opening.length + i + closing.length = gap.length

/-- Every text before a `<?hcv ` of the line is clear. -/
def StrayFree (cur : Text) : Prop :=
  match strstr opening cur with
  | none => True
  | some startpi =>
      GapClear (cur.take startpi) ∧
        match _h : nextMarkup cur with
        | none => True
        | some (_, _, rest) => StrayFree rest
termination_by cur.length
decreasing_by exact nextMarkup_length _h

/-! ## The two searches -/

/-- No `?>` begins inside `<?hcv ` and none straddles its end. -/
theorem strstr_closing_opening (k : Nat) (hk : k ≤ opening.length) (more : Text) :
    strstr closing ((opening ++ more).drop k) =
      (strstr closing more).map (· + (opening.length - k)) := by
  have hsplit : (opening ++ more).drop k = opening.drop k ++ more := by
    rw [List.drop_append_of_le_length hk]
  rw [hsplit]
  have hlen : (opening.drop k).length = opening.length - k := List.length_drop
  rw [← hlen]
  apply strstr_append_of_forall
  -- an occurrence of `?>` would begin at one of the characters of `<?hcv `
  intro i hi hp
  rw [List.drop_append_of_le_length (by omega), List.drop_drop] at hp
  have hki : k + i < opening.length := by omega
  -- the six places of the opening, one by one
  simp only [opening, List.length_cons, List.length_nil] at hki
  generalize hj : k + i = j at hp hki
  interval_cases j <;> simp [opening, closing] at hp

/-- What the search of the loop finds: a stray `?>` of the text before the
markup, or else the end of the markup. -/
theorem strstr_closing_search {cur : Text} {startpi : Nat}
    (hstart : strstr opening cur = some startpi) :
    strstr closing (cur.drop opening.length) =
      match strstr closing ((cur.take startpi).drop opening.length) with
      | some i => some i
      | none =>
          (strstr closing (cur.drop (startpi + opening.length))).map (· + startpi) := by
  have hcur : cur = cur.take startpi ++ opening ++ cur.drop (startpi + opening.length) :=
    strstr_split hstart
  have hgaplen := length_take_of_strstr hstart opening_ne_nil
  generalize hgap : cur.take startpi = gap at hcur hgaplen ⊢
  generalize hmore : cur.drop (startpi + opening.length) = more at hcur ⊢
  rw [hcur, List.append_assoc]
  by_cases hshort : gap.length ≤ opening.length
  · -- the search starts inside the opening
    have hdrop : (gap ++ (opening ++ more)).drop opening.length =
        (opening ++ more).drop (opening.length - gap.length) := by
      rw [List.drop_append, List.drop_eq_nil_of_le hshort, List.nil_append]
    rw [hdrop, strstr_closing_opening _ (by omega), List.drop_eq_nil_of_le hshort]
    have hnil : strstr closing [] = none := by decide
    rw [hnil]
    have heq : opening.length - (opening.length - gap.length) = startpi := by omega
    rw [heq]
  · -- the search starts in the text before the opening
    have hdrop : (gap ++ (opening ++ more)).drop opening.length =
        gap.drop opening.length ++ (opening ++ more) :=
      List.drop_append_of_le_length (by omega)
    rw [hdrop]
    cases hstray : strstr closing (gap.drop opening.length) with
    | some i => exact strstr_append hstray _ (by decide)
    | none =>
        have hseam : strstr closing (gap.drop opening.length ++ (opening ++ more)) =
            (strstr closing (opening ++ more)).map (· + (gap.drop opening.length).length) := by
          apply strstr_append_of_forall
          intro i hi hp
          by_cases hend : i + closing.length ≤ (gap.drop opening.length).length
          · -- an occurrence inside the text would have been found
            rw [List.drop_append_of_le_length (by omega)] at hp
            refine not_start_drop_of_strstr_none hstray i (by decide) ?_
            refine List.prefix_of_prefix_length_le hp (List.prefix_append _ _) ?_
            rw [List.length_drop]
            omega
          · -- one straddling the seam would need the opening to start with `>`
            have hlast : i + 1 = (gap.drop opening.length).length := by
              simp only [closing, List.length_cons, List.length_nil] at hend
              omega
            rcases hp with ⟨ys, hys⟩
            have hsecond := congrArg (fun l => l[1]?) hys
            simp only [closing, List.cons_append, List.nil_append, List.getElem?_drop,
              List.getElem?_cons_succ, List.getElem?_cons_zero] at hsecond
            rw [hlast, List.getElem?_append_right (Nat.le_refl _), Nat.sub_self] at hsecond
            simp [opening] at hsecond
        rw [hseam]
        have hopen := strstr_closing_opening 0 (by decide) more
        rw [List.drop_zero] at hopen
        rw [hopen, Option.map_map]
        congr 1
        funext i
        rw [List.length_drop]
        simp only [Function.comp_apply]
        omega

/-! ## One markup -/

/-- A blank of a scan's format passes over no `?`. -/
theorem exists_gap (s : Text) : ∃ gap, s = gap ++ blanks s ∧ '?' ∉ gap := by
  refine ⟨s.takeWhile isSpace, List.takeWhile_append_dropWhile.symm, ?_⟩
  intro hmem
  exact absurd (List.mem_takeWhile_imp hmem) (by decide)

/-- The fields that the scan for a name reads. -/
theorem fields_of_scanInstruction {s name rest : Text} (h : scanInstruction s = some (name, rest)) :
    ∃ t u, s = ['<', '?', 'h', 'c', 'v'] ++ t ∧
      scanSet templateNameMaxlen isNameChar (blanks t) = some (name, u) ∧ rest = blanks u := by
  simp only [scanInstruction, Option.bind_eq_bind, Option.bind_eq_some_iff] at h
  rcases h with ⟨t, ht, ⟨name', u⟩, hu, heq⟩
  rcases Prod.mk.inj (Option.some.inj heq) with ⟨rfl, rfl⟩
  exact ⟨t, u, eq_append_of_literal ht, hu, rfl⟩

theorem scanInstruction_spec {procstr namebuf rest : Text}
    (h : scanInstruction procstr = some (namebuf, rest)) :
    ∃ consumed, procstr = ['<', '?', 'h', 'c', 'v'] ++ (consumed ++ rest) ∧ '?' ∉ consumed := by
  rcases fields_of_scanInstruction h with ⟨s, tail, hs, hname, hrest⟩
  rcases exists_gap s with ⟨gap₁, hgap₁, hmark₁⟩
  rcases exists_gap tail with ⟨gap₂, hgap₂, hmark₂⟩
  rcases scanSet_spec hname with ⟨hfield, -, hset⟩
  have hnamebuf : '?' ∉ namebuf := fun hmem => absurd (hset _ hmem) (by decide)
  -- the blanks, the name and the blanks after it; none of them is a `?`
  refine ⟨gap₁ ++ namebuf ++ gap₂, ?_, ?_⟩
  · rw [hs, hrest, List.append_assoc, List.append_assoc, ← hgap₂, ← hfield, ← hgap₁]
  · simp only [List.mem_append, not_or]
    exact ⟨⟨hmark₁, hnamebuf⟩, hmark₂⟩

/-- What the scan of a markup leaves still ends with the first `?>` of it. -/
theorem rest_of_markup {body consumed rest : Text}
    (hbody : strstr closing (body ++ closing) = some body.length) (hmark : '?' ∉ consumed)
    (hsplit : opening ++ body ++ closing = ['<', '?', 'h', 'c', 'v'] ++ (consumed ++ rest)) :
    ∃ endpi, strstr closing rest = some endpi ∧ rest.length = endpi + closing.length := by
  have htail : ' ' :: (body ++ closing) = consumed ++ rest := by simpa [opening] using hsplit
  have hsearch : strstr closing (consumed ++ rest) = some (body.length + 1) := by
    rw [← htail, strstr_cons_of_not_start (by simp [closing]), hbody, Option.map_some]
  rw [strstr_append_of_notMem rest (x := '?') (by decide) hmark] at hsearch
  rcases Option.map_eq_some_iff.mp hsearch with ⟨endpi, hend, hsum⟩
  refine ⟨endpi, hend, ?_⟩
  have hlens := congrArg List.length htail
  simp only [List.length_cons, List.length_append, closing, List.length_nil] at hlens ⊢
  omega

variable {ε : Type*} (dict : ExpanderDict ε) (env : Nat → ε)

/-- A markup is never taken for a corrupted instruction. -/
theorem expandProcessingInstruction_markup (reading : ε) {body : Text} {call : Call}
    (hcall : call.procinstr = opening ++ body ++ closing)
    (hbody : strstr closing (body ++ closing) = some body.length)
    (hnul : '\x00' ∉ call.procinstr) :
    expandProcessingInstruction dict reading call = .ok (written dict reading call) := by
  unfold expandProcessingInstruction written
  rw [cstr_of_notMem hnul]
  cases hscan : scanInstruction call.procinstr with
  | none => rfl
  | some field =>
      rcases field with ⟨namebuf, rest⟩
      rcases scanInstruction_spec hscan with ⟨consumed, hsplit, hmark⟩
      rcases rest_of_markup hbody hmark (hcall.symm.trans hsplit) with ⟨endpi, hend, hlen⟩
      simp only [hend]
      rw [if_neg (by simpa using hlen)]
      cases dict.find namebuf <;> rfl

/-- The empty instruction, which a `?>` right before a markup gives rise to,
writes nothing. -/
theorem expandProcessingInstruction_nil (reading : ε) {call : Call} (h : call.procinstr = []) :
    expandProcessingInstruction dict reading call = .ok [] := by
  have hscan : scanInstruction (cstr []) = none := by decide
  unfold expandProcessingInstruction
  rw [h, hscan]

/-! ## The loop -/

/-- What the code writes for a piece. -/
def Streams.emit (sink : Sink) (filename : Text) (st : Streams) : Piece → Streams
  | .text s => st.put sink s
  | .markup position lineno offset procinstr =>
      st.expand (written dict (env position) ⟨procinstr, filename, lineno, offset⟩)

@[simp] theorem Streams.put_nil (st : Streams) (sink : Sink) : st.put sink [] = st := by
  cases sink <;> simp [Streams.put]

@[simp] theorem Streams.expand_nil (st : Streams) : st.expand [] = st := by
  simp [Streams.expand]

theorem Streams.put_put (st : Streams) (sink : Sink) (s t : Text) :
    (st.put sink s).put sink t = st.put sink (s ++ t) := by
  cases sink <;> simp [Streams.put]

/-- A markup is found again when the text before it is dropped. -/
theorem nextMarkup_drop {cur : Text} {startpi : Nat} (hstart : strstr opening cur = some startpi) :
    nextMarkup (cur.drop startpi) = (nextMarkup cur).map fun p => ([], p.2) := by
  have hopen : strstr opening (cur.drop startpi) = some 0 :=
    strstr_of_start (start_drop_of_strstr hstart)
  unfold nextMarkup
  rw [hstart, hopen]
  simp only [List.drop_drop, Nat.zero_add]
  cases strstr closing (cur.drop (startpi + opening.length)) with
  | none => rfl
  | some len => simp

theorem strayFree_iff {cur : Text} {startpi : Nat} (hstart : strstr opening cur = some startpi) :
    StrayFree cur ↔
      GapClear (cur.take startpi) ∧ ∀ p, nextMarkup cur = some p → StrayFree p.2.2 := by
  rw [StrayFree, hstart]
  simp only
  split
  · next hnext => simp [hnext]
  · next before markup rest hnext => simp [hnext]

theorem strayFree_of_none {cur : Text} (h : strstr opening cur = none) : StrayFree cur := by
  rw [StrayFree, h]
  trivial

theorem gapClear_of_none {gap : Text} (h : strstr closing (gap.drop opening.length) = none) :
    GapClear gap := by
  intro i hi
  rw [h] at hi
  simp at hi

theorem gapClear_of_adjacent {cur : Text} {startpi i : Nat}
    (hstart : strstr opening cur = some startpi)
    (hstray : strstr closing ((cur.take startpi).drop opening.length) = some i)
    (hadj : opening.length + i + closing.length = startpi) : GapClear (cur.take startpi) := by
  intro j hj
  rw [hstray] at hj
  rw [← Option.some.inj hj, length_take_of_strstr hstart opening_ne_nil, hadj]

theorem not_strayFree_of_stray {cur : Text} {startpi i : Nat}
    (hstart : strstr opening cur = some startpi)
    (hstray : strstr closing ((cur.take startpi).drop opening.length) = some i)
    (hadj : opening.length + i + closing.length ≠ startpi) : ¬ StrayFree cur := by
  intro hfree
  have hend := (strayFree_iff hstart).mp hfree |>.1 i hstray
  rw [length_take_of_strstr hstart opening_ne_nil] at hend
  exact hadj hend

theorem strayFree_drop_iff {cur : Text} {startpi : Nat}
    (hstart : strstr opening cur = some startpi) :
    StrayFree cur ↔ GapClear (cur.take startpi) ∧ StrayFree (cur.drop startpi) := by
  have hopen : strstr opening (cur.drop startpi) = some 0 :=
    strstr_of_start (start_drop_of_strstr hstart)
  have hnil : GapClear [] := by
    intro i hi
    simp [strstr, closing] at hi
  rw [strayFree_iff hstart, strayFree_iff hopen, nextMarkup_drop hstart, List.take_zero]
  refine and_congr_right fun _ => ?_
  constructor
  · intro h
    refine ⟨hnil, ?_⟩
    intro p hp
    rcases Option.map_eq_some_iff.mp hp with ⟨q, hq, rfl⟩
    exact h q hq
  · rintro ⟨-, h⟩ p hp
    exact h ([], p.2) (by rw [hp, Option.map_some])

theorem linePieces_none {cur : Text} (lineno off col : Nat) (h : nextMarkup cur = none) :
    linePieces lineno off col cur = [.text cur] := by
  rw [linePieces]
  split
  · rfl
  · next hsome => simp [h] at hsome

theorem linePieces_some {cur before markup rest : Text} (lineno off col : Nat)
    (h : nextMarkup cur = some (before, markup, rest)) :
    linePieces lineno off col cur =
      .text before :: .markup (off + col + before.length) lineno off markup ::
        linePieces lineno off (col + before.length + markup.length) rest := by
  rw [linePieces]
  split
  · next hnone => simp [h] at hnone
  · next b m r hsome =>
      rw [h] at hsome
      simp only [Option.some.injEq, Prod.mk.injEq] at hsome
      rcases hsome with ⟨rfl, rfl, rfl⟩
      rfl

/-- A markup is its opening, its body and its closing. -/
theorem markup_eq {cur : Text} {startpi len size : Nat}
    (hstart : strstr opening cur = some startpi)
    (hclose : strstr closing (cur.drop (startpi + opening.length)) = some len)
    (hsize : opening.length + len + closing.length = size) :
    (cur.drop startpi).take size =
      opening ++ (cur.drop (startpi + opening.length)).take len ++ closing := by
  rcases start_drop_of_strstr hstart with ⟨more, hmore⟩
  rcases start_drop_of_strstr hclose with ⟨rest, hrest⟩
  have hdrop : cur.drop (startpi + opening.length) = more := by
    rw [← List.drop_drop, ← hmore, List.drop_left]
  have hbody : more = more.take len ++ (closing ++ rest) := by
    rw [hdrop] at hrest
    rw [hrest, List.take_append_drop]
  have hlen : (more.take len).length = len :=
    length_take_of_strstr (hdrop ▸ hclose) closing_ne_nil
  have hsplit : cur.drop startpi = opening ++ more.take len ++ closing ++ rest := by
    rw [List.append_assoc, List.append_assoc, ← hbody, hmore]
  rw [hdrop, hsplit]
  apply List.take_left'
  rw [List.length_append, List.length_append, hlen, hsize]

section Loop

variable (sink : Sink) (filename : Text) (lineno off : Nat)

/-- What is written for the pieces of a line from a state. -/
abbrev emitLine (col : Nat) (cur : Text) (st : Streams) : Streams :=
  (linePieces lineno off col cur).foldl (Streams.emit dict env sink filename) st

/-- The text before a markup can be written first. -/
theorem emitLine_drop {cur : Text} {startpi : Nat} (hstart : strstr opening cur = some startpi)
    (col : Nat) (st : Streams) :
    emitLine dict env sink filename lineno off (col + startpi) (cur.drop startpi)
        (st.put sink (cur.take startpi)) =
      emitLine dict env sink filename lineno off col cur st := by
  have hdrop := nextMarkup_drop hstart
  cases hnext : nextMarkup cur with
  | none =>
      rw [hnext, Option.map_none] at hdrop
      simp only [emitLine, linePieces_none _ _ _ hnext, linePieces_none _ _ _ hdrop,
        List.foldl_cons, List.foldl_nil, Streams.emit, Streams.put_put, List.take_append_drop]
  | some p =>
      rcases p with ⟨before, markup, rest⟩
      rw [hnext, Option.map_some] at hdrop
      have hbefore : before = cur.take startpi := by
        rcases nextMarkup_spec hnext with ⟨startpi', len, hstart', -, hbefore, -, -⟩
        have heq : startpi' = startpi := Option.some.inj (hstart'.symm.trans hstart)
        rw [hbefore, heq]
      have hlen : before.length = startpi := by
        rw [hbefore]
        exact length_take_of_strstr hstart opening_ne_nil
      simp only [emitLine, linePieces_some _ _ _ hnext, linePieces_some _ _ _ hdrop,
        List.foldl_cons, Streams.emit, Streams.put_nil, List.length_nil, Nat.add_zero]
      rw [hlen, ← hbefore, Nat.add_assoc off]

/-! ### One turn -/

section Turn

variable {cur : Text} {startpi : Nat} (hstart : strstr opening cur = some startpi)
  (fuel col : Nat) (st : Streams)

include hstart

/-- A `?>` of the text before the markup that ends where the markup starts: an
empty instruction, after which the markup is found again. -/
theorem scanLoop_adjacent {i : Nat}
    (hstray : strstr closing ((cur.take startpi).drop opening.length) = some i)
    (hadj : opening.length + i + closing.length = startpi) :
    scanLoop dict env sink filename lineno off (fuel + 1) col cur st =
      scanLoop dict env sink filename lineno off fuel (col + startpi) (cur.drop startpi)
        (st.put sink (cur.take startpi)) := by
  have hsearch := strstr_closing_search hstart
  rw [hstray] at hsearch
  rw [scanLoop]
  simp only [hstart, hsearch, hadj]
  rw [if_neg (Nat.lt_irrefl _), Nat.sub_self, List.take_zero,
    expandProcessingInstruction_nil dict _ rfl]
  simp only [Streams.expand_nil]

/-- One that ends before the markup starts: a string of negative length. -/
theorem scanLoop_stray {i : Nat}
    (hstray : strstr closing ((cur.take startpi).drop opening.length) = some i)
    (hadj : opening.length + i + closing.length ≠ startpi) :
    scanLoop dict env sink filename lineno off (fuel + 1) col cur st = .error .lengthError := by
  have hsearch := strstr_closing_search hstart
  rw [hstray] at hsearch
  have hin := strstr_le_length hstray closing_ne_nil
  have hpos : 0 < closing.length := List.length_pos_iff.mpr closing_ne_nil
  rw [List.length_drop, length_take_of_strstr hstart opening_ne_nil] at hin
  rw [scanLoop]
  simp only [hstart, hsearch]
  rw [if_pos (by omega)]

/-- An unclosed markup: the rest of the line is literal. -/
theorem scanLoop_unclosed
    (hstray : strstr closing ((cur.take startpi).drop opening.length) = none)
    (hclose : strstr closing (cur.drop (startpi + opening.length)) = none) :
    scanLoop dict env sink filename lineno off (fuel + 1) col cur st =
      .ok (st.put sink cur) := by
  have hsearch := strstr_closing_search hstart
  rw [hstray, hclose] at hsearch
  rw [scanLoop]
  simp only [hstart, hsearch, Option.map_none]

/-- A closed markup, then the rest of the line. -/
theorem scanLoop_markup {len size : Nat} (hnul : '\x00' ∉ cur)
    (hstray : strstr closing ((cur.take startpi).drop opening.length) = none)
    (hclose : strstr closing (cur.drop (startpi + opening.length)) = some len)
    (hsize : opening.length + len + closing.length = size) :
    scanLoop dict env sink filename lineno off (fuel + 1) col cur st =
      scanLoop dict env sink filename lineno off fuel (col + (startpi + size))
        (cur.drop (startpi + size)) ((st.put sink (cur.take startpi)).expand
          (written dict (env (off + col + startpi))
            ⟨(cur.drop startpi).take size, filename, lineno, off⟩)) := by
  have hsearch := strstr_closing_search hstart
  rw [hstray, hclose] at hsearch
  have hend : opening.length + (len + startpi) + closing.length = startpi + size := by omega
  have hexpand : expandProcessingInstruction dict (env (off + col + startpi))
      ⟨(cur.drop startpi).take size, filename, lineno, off⟩ =
      .ok (written dict (env (off + col + startpi))
        ⟨(cur.drop startpi).take size, filename, lineno, off⟩) :=
    expandProcessingInstruction_markup dict _ (markup_eq hstart hclose hsize)
      (strstr_take_append hclose closing_ne_nil)
      fun h => hnul (List.mem_of_mem_drop (List.mem_of_mem_take h))
  rw [scanLoop]
  simp only [hstart, hsearch, Option.map_some, hend, Nat.add_sub_cancel_left]
  rw [if_neg (by omega), hexpand]

/-- What is written for such a line. -/
theorem emitLine_markup {len size : Nat}
    (hclose : strstr closing (cur.drop (startpi + opening.length)) = some len)
    (hsize : opening.length + len + closing.length = size) :
    emitLine dict env sink filename lineno off col cur st =
      emitLine dict env sink filename lineno off (col + (startpi + size))
        (cur.drop (startpi + size)) ((st.put sink (cur.take startpi)).expand
          (written dict (env (off + col + startpi))
            ⟨(cur.drop startpi).take size, filename, lineno, off⟩)) := by
  have hnext : nextMarkup cur = some (cur.take startpi,
      (cur.drop startpi).take size, cur.drop (startpi + size)) := by
    simp only [nextMarkup, hstart, hclose, hsize]
  have hlen : ((cur.drop startpi).take size).length = size := by
    have hin := strstr_le_length hclose closing_ne_nil
    have hpos := strstr_le_length hstart opening_ne_nil
    rw [List.length_drop] at hin
    rw [List.length_take, List.length_drop]
    omega
  simp only [emitLine, linePieces_some _ _ _ hnext, List.foldl_cons, Streams.emit,
    length_take_of_strstr hstart opening_ne_nil, hlen, Nat.add_assoc]

end Turn

/-! ### All turns -/

theorem emitLine_of_none {cur : Text} (h : nextMarkup cur = none) (col : Nat) (st : Streams) :
    emitLine dict env sink filename lineno off col cur st = st.put sink cur := by
  simp only [emitLine, linePieces_none _ _ _ h, List.foldl_cons, List.foldl_nil, Streams.emit]

/-- **The loop of the two scanners.** With a turn per character, it writes the
pieces of a stray-free line and throws on any other line. -/
theorem scanLoop_eq (fuel col : Nat) (cur : Text) (st : Streams)
    (hfuel : cur.length < fuel) (hnul : '\x00' ∉ cur) :
    (StrayFree cur → scanLoop dict env sink filename lineno off fuel col cur st =
      .ok (emitLine dict env sink filename lineno off col cur st)) ∧
    (¬ StrayFree cur → scanLoop dict env sink filename lineno off fuel col cur st =
      .error .lengthError) := by
  -- every turn but the last consumes at least the markup it finds
  induction fuel generalizing col cur st with
  | zero => omega
  | succ fuel ih =>
      cases hstart : strstr opening cur with
      | none =>
          have hnone : nextMarkup cur = none := by simp [nextMarkup, hstart]
          rw [emitLine_of_none _ _ _ _ _ _ hnone, scanLoop, hstart]
          exact ⟨fun _ => rfl, fun h => absurd (strayFree_of_none hstart) h⟩
      | some startpi =>
          have hlong := strstr_le_length hstart opening_ne_nil
          have hpos : 0 < opening.length := List.length_pos_iff.mpr opening_ne_nil
          -- what follows the markup or the text before it is shorter
          have hrec : ∀ n, 0 < n → ∀ col' st', _ := fun n hn col' st' =>
            ih col' (cur.drop n) st'
              (by rw [List.length_drop]; omega) fun h => hnul (List.mem_of_mem_drop h)
          cases hstray : strstr closing ((cur.take startpi).drop opening.length) with
          | some i =>
              by_cases hadj : opening.length + i + closing.length = startpi
              · have hiff : StrayFree cur ↔ StrayFree (cur.drop startpi) := by
                  rw [strayFree_drop_iff hstart,
                    and_iff_right (gapClear_of_adjacent hstart hstray hadj)]
                rw [scanLoop_adjacent dict env sink filename lineno off hstart fuel col st hstray
                  hadj, ← emitLine_drop dict env sink filename lineno off hstart, hiff]
                exact hrec startpi (by omega) _ _
              · rw [scanLoop_stray dict env sink filename lineno off hstart fuel col st hstray hadj]
                exact ⟨fun h => absurd h (not_strayFree_of_stray hstart hstray hadj), fun _ => rfl⟩
          | none =>
              have hclear : GapClear (cur.take startpi) := gapClear_of_none hstray
              cases hclose : strstr closing (cur.drop (startpi + opening.length)) with
              | none =>
                  have hnone : nextMarkup cur = none := by simp [nextMarkup, hstart, hclose]
                  have hfree : StrayFree cur :=
                    (strayFree_iff hstart).mpr ⟨hclear, by simp [hnone]⟩
                  rw [scanLoop_unclosed dict env sink filename lineno off hstart fuel col st hstray
                    hclose, emitLine_of_none _ _ _ _ _ _ hnone]
                  exact ⟨fun _ => rfl, fun h => absurd hfree h⟩
              | some len =>
                  generalize hsize : opening.length + len + closing.length = size
                  have hiff : StrayFree cur ↔ StrayFree (cur.drop (startpi + size)) := by
                    rw [strayFree_iff hstart]
                    simp [nextMarkup, hstart, hclose, hsize, hclear]
                  rw [scanLoop_markup dict env sink filename lineno off hstart fuel col st hnul
                    hstray hclose hsize, emitLine_markup dict env sink filename lineno off hstart
                    col st hclose hsize, hiff]
                  exact hrec (startpi + size) (by omega) _ _

end Loop

end HelpCovid.Template
