import HelpCovid.Template.LineScan
import Mathlib.Algebra.Order.BigOperators.Group.List

/-!
# Expanding a template file

What `hcv_expand_template_file` returns, for every template without NUL that
fits the size limit, against `templateMeaning`:

* `expandFileLines_eq`: the loop over the lines writes the output of the pieces
  in order when every scanned line is stray-free, and throws otherwise;
* `Piece.meaning_eq_output_iff`: the output of a piece is its meaning except at
  a markup whose name is cut at 64 characters to the name of an expander that
  writes something;
* `expandTemplateFile_eq_meaning_iff` puts the two together.
-/

namespace HelpCovid.Template

open CText

/-! ## What the loop writes for a piece -/

section Output

variable {ε : Type*} (dict : ExpanderDict ε) (env : Nat → ε) (filename : Text)

/-- What the code writes for a piece, on whichever stream. -/
def Piece.output : Piece → Text
  | .text s => s
  | .markup position lineno offset procinstr =>
      written dict (env position) ⟨procinstr, filename, lineno, offset⟩

theorem foldl_emit_data (ps : List Piece) (st : Streams) :
    ps.foldl (Streams.emit dict env .data filename) st =
      st.put .data (ps.flatMap (Piece.output dict env filename)) := by
  induction ps generalizing st with
  | nil => simp
  | cons p ps ih =>
      rw [List.foldl_cons, ih, List.flatMap_cons, ← Streams.put_put]
      cases p <;> rfl

end Output

/-! ## The lines the loop scans -/

/-- The lines that are not copied verbatim as declarations. -/
def scannedLines : (lineno : Nat) → List Text → List Text
  | _, [] => []
  | lineno, line :: rest =>
      if declarationLine lineno line then scannedLines (lineno + 1) rest
      else line :: scannedLines (lineno + 1) rest

/-- A declaration of at most four characters is scanned by the code, which finds
nothing in it. -/
theorem verbatimLine_eq (lineno : Nat) (line : Text) :
    verbatimLine lineno line = (declarationLine lineno line && decide (4 < line.length)) := by
  unfold verbatimLine declarationLine
  cases line with
  | nil => simp
  | cons c cs =>
      cases cs with
      | nil => simp
      | cons d ds =>
          have hstart : ['<', '!'].isPrefixOf (c :: d :: ds) = (c == '<' && d == '!') := by
            rw [List.isPrefixOf, List.isPrefixOf, List.isPrefixOf, Bool.and_true,
              @BEq.comm Char _ _ '<', @BEq.comm Char _ _ '!']
          rw [hstart]
          simp only [List.getElem?_cons_zero, List.getElem?_cons_succ, Option.some_beq_some,
            Bool.and_assoc]
          rw [Bool.and_comm (decide (4 < _)), Bool.and_assoc]

theorem strstr_opening_of_length {line : Text} (h : line.length ≤ 4) :
    strstr opening line = none := by
  cases hstart : strstr opening line with
  | none => rfl
  | some i =>
      have hin := strstr_le_length hstart opening_ne_nil
      simp only [opening, List.length_cons, List.length_nil] at hin
      omega

section Lines

variable {ε : Type*} (dict : ExpanderDict ε) (env : Nat → ε)

theorem scanLine_eq (sink : Sink) (filename : Text) (lineno off : Nat) (line : Text)
    (st : Streams) (hnul : '\x00' ∉ line) :
    (StrayFree line → scanLine dict env sink filename lineno off line st =
      .ok ((emitLine dict env sink filename lineno off 0 line st).put sink ['\n'])) ∧
    (¬ StrayFree line → scanLine dict env sink filename lineno off line st =
      .error .lengthError) := by
  have hloop := scanLoop_eq dict env sink filename lineno off (line.length + 1) 0 line st
    (Nat.lt_succ_self _) hnul
  simp only [scanLine, cstr_of_notMem hnul]
  constructor
  · intro h
    rw [hloop.1 h]
  · intro h
    rw [hloop.2 h]

/-- One line of a file: a declaration is copied, any other line is scanned. -/
theorem expandFileLines_cons (path : Text) (lineno off : Nat) (line : Text) (rest : List Text)
    (st : Streams) (hnul : '\x00' ∉ line) :
    (declarationLine lineno line ∨ StrayFree line →
      expandFileLines dict env path lineno off (line :: rest) st =
        expandFileLines dict env path (lineno + 1) (off + line.length + 1) rest
          (st.put .data ((filePieces lineno off [line]).flatMap
            (Piece.output dict env path)))) ∧
    (declarationLine lineno line = false → ¬ StrayFree line →
      expandFileLines dict env path lineno off (line :: rest) st = .error .lengthError) := by
  have hscan := scanLine_eq dict env .data path lineno off line st hnul
  have hnil : StrayFree [] := strayFree_of_none (by decide)
  rw [expandFileLines]
  by_cases hempty : line = []
  · -- an empty line, which has no piece but the empty one
    subst hempty
    have hdecl : declarationLine lineno [] = false := by simp [declarationLine]
    constructor
    · intro _
      have hpieces : linePieces lineno off 0 [] = [.text []] := linePieces_none _ _ _ (by decide)
      simp [filePieces, hdecl, hpieces, Piece.output]
    · intro _ h
      exact absurd hnil h
  · have hne : line.isEmpty = false := by simpa using hempty
    rw [verbatimLine_eq, hne]
    cases hdecl : declarationLine lineno line with
    | true =>
        refine ⟨fun _ => ?_, fun h => by simp at h⟩
        by_cases hlong : 4 < line.length
        · -- a declaration copied by the code
          simp [filePieces, hdecl, hlong, Piece.output, Streams.put_put]
        · -- a short one, which the code scans
          have hnone := strstr_opening_of_length (Nat.le_of_not_lt hlong)
          have hpieces : linePieces lineno off 0 line = [.text line] :=
            linePieces_none _ _ _ (by simp [nextMarkup, hnone])
          have hline := hscan.1 (strayFree_of_none hnone)
          rw [emitLine, hpieces, foldl_emit_data, Streams.put_put] at hline
          simp [filePieces, hdecl, hlong, Piece.output, hline]
    | false =>
        constructor
        · intro h
          have hfree : StrayFree line := h.resolve_left (by simp)
          simp [filePieces, hdecl, hscan.1 hfree, foldl_emit_data, Streams.put_put,
            Piece.output]
        · intro _ hstray
          simp [hscan.2 hstray]

theorem filePieces_cons (lineno off : Nat) (line : Text) (rest : List Text) :
    filePieces lineno off (line :: rest) =
      filePieces lineno off [line] ++
        filePieces (lineno + 1) (off + line.length + 1) rest := by
  simp [filePieces]

/-- The loop over the lines of a file. -/
theorem expandFileLines_eq (path : Text) (lineno off : Nat) (ls : List Text) (st : Streams)
    (hnul : ∀ line ∈ ls, '\x00' ∉ line) :
    ((∀ line ∈ scannedLines lineno ls, StrayFree line) →
      expandFileLines dict env path lineno off ls st =
        .ok (st.put .data ((filePieces lineno off ls).flatMap (Piece.output dict env path)))) ∧
    (¬ (∀ line ∈ scannedLines lineno ls, StrayFree line) →
      expandFileLines dict env path lineno off ls st = .error .lengthError) := by
  -- on the lines; the first stray line ends the expansion whatever follows it
  induction ls generalizing lineno off st with
  | nil => simp [expandFileLines, scannedLines, filePieces]
  | cons line rest ih =>
      have hline := expandFileLines_cons dict env path lineno off line rest st
        (hnul line (by simp))
      have hrest := ih (lineno + 1) (off + line.length + 1)
        (st.put .data ((filePieces lineno off [line]).flatMap (Piece.output dict env path)))
        fun l hl => hnul l (List.mem_cons_of_mem _ hl)
      rw [Streams.put_put, ← List.flatMap_append, ← filePieces_cons] at hrest
      cases hdecl : declarationLine lineno line with
      | true =>
          rw [hline.1 (Or.inl hdecl)]
          simpa [scannedLines, hdecl] using hrest
      | false =>
          simp only [scannedLines, hdecl, List.forall_mem_cons, Bool.false_eq_true, if_false]
          by_cases hfree : StrayFree line
          · rw [hline.1 (Or.inr hfree)]
            simpa [hfree] using hrest
          · rw [hline.2 hdecl hfree]
            simp [hfree]

end Lines

/-! ## Output and meaning -/

theorem scanInstruction_opening (s : Text) :
    scanInstruction (opening ++ s) =
      if markupName (opening ++ s) = [] then none
      else some ((markupName (opening ++ s)).take templateNameMaxlen,
        blanks ((blanks (' ' :: s)).drop
          ((markupName (opening ++ s)).take templateNameMaxlen).length)) := by
  have hlit : literal ['<', '?', 'h', 'c', 'v'] (opening ++ s) = some (' ' :: s) :=
    literal_append ['<', '?', 'h', 'c', 'v'] (' ' :: s)
  have hname : markupName (opening ++ s) = (blanks (' ' :: s)).takeWhile isNameChar := rfl
  rw [hname, List.take_takeWhile]
  simp only [scanInstruction, hlit, Option.bind_eq_bind, Option.bind_some, scanSet,
    ← List.take_takeWhile, List.isEmpty_iff, List.take_eq_nil_iff]
  by_cases hempty : (blanks (' ' :: s)).takeWhile isNameChar = []
  · simp [hempty]
  · simp [hempty, templateNameMaxlen]

section Meaning

variable {ε : Type*} (dict : ExpanderDict ε) (env : Nat → ε) (filename : Text)

theorem ExpanderDict.find_nil : dict.find [] = none := by
  apply Std.ExtTreeMap.getElem?_eq_none
  intro hmem
  have hcheck := dict.checked [] hmem
  simp [checkName] at hcheck

/-- The code looks the first 64 characters of the name up. -/
theorem written_opening (reading : ε) {call : Call} (h : opening <+: call.procinstr) :
    written dict reading call =
      match dict.find ((markupName call.procinstr).take templateNameMaxlen) with
      | none => []
      | some clos => clos reading call := by
  rcases h with ⟨s, hs⟩
  unfold written
  rw [← hs, scanInstruction_opening]
  by_cases hempty : markupName (opening ++ s) = []
  · simp [hempty, dict.find_nil]
  · rw [if_neg hempty]
    simp only
    cases dict.find ((markupName (opening ++ s)).take templateNameMaxlen) <;> rfl

/-- A markup at which the code runs an expander that writes something: the one
bound to the first 64 characters of the name. -/
def Piece.Writes : Piece → Prop
  | .text _ => False
  | .markup position lineno offset procinstr =>
      ∃ clos, dict.find ((markupName procinstr).take templateNameMaxlen) = some clos ∧
        clos (env position) ⟨procinstr, filename, lineno, offset⟩ ≠ []

/-- A markup that the code takes for another: its name has more than 64
characters, and the first 64 are the name of an expander that writes something. -/
def Piece.Misread (p : Piece) : Prop :=
  match p with
  | .text _ => False
  | .markup _ _ _ procinstr =>
      templateNameMaxlen < (markupName procinstr).length ∧ p.Writes dict env filename

/-- The text of a markup starts with `<?hcv `. -/
def Piece.Opens : Piece → Prop
  | .text _ => True
  | .markup _ _ _ procinstr => opening <+: procinstr

theorem Piece.written_ne_nil_iff {position lineno offset : Nat} {procinstr : Text}
    (h : opening <+: procinstr) :
    written dict (env position) ⟨procinstr, filename, lineno, offset⟩ ≠ [] ↔
      (Piece.markup position lineno offset procinstr).Writes dict env filename := by
  rw [written_opening dict _ h]
  simp only [Piece.Writes]
  cases dict.find ((markupName procinstr).take templateNameMaxlen) <;> simp

/-- The output is the meaning unless the markup is misread; then the meaning is
the empty text. -/
theorem Piece.meaning_eq_output_iff {p : Piece} (h : p.Opens) :
    (p.meaning dict env filename = p.output dict env filename ↔
        ¬ p.Misread dict env filename) ∧
      (p.Misread dict env filename → p.meaning dict env filename = []) := by
  cases p with
  | text s => simp [Piece.meaning, Piece.output, Piece.Misread]
  | markup position lineno offset procinstr =>
      simp only [Piece.Opens] at h
      simp only [Piece.meaning, Piece.output, Piece.Misread]
      by_cases hlong : templateNameMaxlen < (markupName procinstr).length
      · -- no expander has the whole name
        simp only [dict.find_eq_none_of_length hlong, hlong, true_and, implies_true, and_true]
        rw [← Piece.written_ne_nil_iff dict env filename h, not_not, eq_comm]
      · rw [written_opening dict _ h, List.take_of_length_le (Nat.le_of_not_lt hlong)]
        refine ⟨⟨fun _ h => hlong h.1, fun _ => ?_⟩, fun h => absurd h.1 hlong⟩
        cases dict.find (markupName procinstr) <;> rfl

theorem linePieces_opens (lineno off col : Nat) (cur : Text) :
    ∀ p ∈ linePieces lineno off col cur, p.Opens := by
  induction hn : cur.length using Nat.strong_induction_on generalizing cur col with
  | _ n ih =>
      cases hnext : nextMarkup cur with
      | none =>
          rw [linePieces_none _ _ _ hnext]
          simp [Piece.Opens]
      | some next =>
          rcases next with ⟨before, markup, rest⟩
          rw [linePieces_some _ _ _ hnext]
          have hopens : opening <+: markup := by
            rcases nextMarkup_spec hnext with ⟨startpi, len, hstart, hclose, -, rfl, -⟩
            rw [markup_eq hstart hclose rfl, List.append_assoc]
            exact List.prefix_append _ _
          intro p hp
          rcases List.mem_cons.mp hp with rfl | hp
          · trivial
          · rcases List.mem_cons.mp hp with rfl | hp
            · exact hopens
            · exact ih _ (hn ▸ nextMarkup_length hnext) _ _ rfl p hp

theorem filePieces_opens (lineno off : Nat) (ls : List Text) :
    ∀ p ∈ filePieces lineno off ls, p.Opens := by
  induction ls generalizing lineno off with
  | nil => simp [filePieces]
  | cons line rest ih =>
      intro p hp
      simp only [filePieces, List.mem_append, List.mem_cons] at hp
      rcases hp with hp | rfl | hp
      · split at hp
        · obtain rfl := List.mem_singleton.mp hp
          trivial
        · exact linePieces_opens _ _ _ _ p hp
      · trivial
      · exact ih _ _ p hp

end Meaning

/-- Two concatenations of texts that differ only at the elements with `B`, where
one of them has the empty text: they are equal when there is no such element. -/
theorem flatMap_eq_flatMap_iff {α β : Type*} {f g : α → List β} {B : α → Prop} {l : List α}
    (h : ∀ x ∈ l, (f x = g x ↔ ¬ B x) ∧ (B x → f x = [])) :
    l.flatMap f = l.flatMap g ↔ ∀ x ∈ l, ¬ B x := by
  induction l with
  | nil => simp
  | cons x l ih =>
      have hx := h x (by simp)
      have hl := fun y (hy : y ∈ l) => h y (List.mem_cons_of_mem _ hy)
      rw [List.flatMap_cons, List.flatMap_cons, List.forall_mem_cons]
      by_cases hB : B x
      · -- the rest cannot make up for the text missing at `x`
        have hne : g x ≠ [] := by
          intro hnil
          exact hx.1.mp ((hx.2 hB).trans hnil.symm) hB
        have hle : (l.flatMap f).length ≤ (l.flatMap g).length := by
          rw [List.length_flatMap, List.length_flatMap]
          apply List.sum_le_sum
          intro y hy
          by_cases hy' : B y
          · simp [(hl y hy).2 hy']
          · rw [(hl y hy).1.mpr hy']
        constructor
        · intro heq
          have hlen := congrArg List.length heq
          rw [hx.2 hB, List.nil_append, List.length_append] at hlen
          have hpos := List.length_pos_iff.mpr hne
          omega
        · intro hall
          exact absurd hB hall.1
      · rw [hx.1.mpr hB, List.append_cancel_left_eq, ih hl, and_iff_right hB]

/-! ## The file -/

section File

variable {ε : Type*} (dict : ExpanderDict ε) (env : Nat → ε)

theorem expandTemplateFile_eq {fs : Text → Option SourceFile} {path text : Text} (outs : Text)
    (hpath : path ≠ []) (hfile : fs path = some ⟨true, text⟩)
    (hsize : text.length ≤ maxTemplateSize) (hnul : '\x00' ∉ text) :
    ((∀ line ∈ scannedLines 1 (lines text), StrayFree line) →
      expandTemplateFile dict env fs path outs =
        .ok (outs ++ (filePieces 1 0 (lines text)).flatMap (Piece.output dict env path))) ∧
    (¬ (∀ line ∈ scannedLines 1 (lines text), StrayFree line) →
      expandTemplateFile dict env fs path outs = .error .lengthError) := by
  have hlines := expandFileLines_eq dict env path 1 0 (lines text) ⟨outs, []⟩
    fun line hline hmem => hnul (mem_of_mem_lines hline hmem)
  have hne : path.isEmpty = false := by simpa using hpath
  have hfits : ¬ text.length > maxTemplateSize := Nat.not_lt.mpr hsize
  simp only [expandTemplateFile, hne, hfile, Bool.not_true, Bool.false_eq_true, if_false,
    if_neg hfits]
  constructor
  · intro h
    rw [hlines.1 h]
    rfl
  · intro h
    rw [hlines.2 h]

/-- **The expansion of a template file.** It is the meaning of the template if
and only if no line that is scanned has a stray `?>` before a markup and no
markup is misread. -/
theorem expandTemplateFile_eq_meaning_iff {fs : Text → Option SourceFile}
    {path outs text : Text} (hpath : path ≠ []) (hfile : fs path = some ⟨true, text⟩)
    (hsize : text.length ≤ maxTemplateSize) (hnul : '\x00' ∉ text) :
    expandTemplateFile dict env fs path outs = .ok (outs ++ templateMeaning dict env path text) ↔
      (∀ line ∈ scannedLines 1 (lines text), StrayFree line) ∧
        ∀ p ∈ filePieces 1 0 (lines text), ¬ p.Misread dict env path := by
  have hfile := expandTemplateFile_eq dict env outs hpath hfile hsize hnul
  have hpiece : ∀ p ∈ filePieces 1 0 (lines text), _ := fun p hp =>
    Piece.meaning_eq_output_iff dict env path (filePieces_opens 1 0 (lines text) p hp)
  by_cases hfree : ∀ line ∈ scannedLines 1 (lines text), StrayFree line
  · rw [hfile.1 hfree, Except.ok.injEq, List.append_cancel_left_eq, templateMeaning, eq_comm,
      flatMap_eq_flatMap_iff hpiece, and_iff_right hfree]
  · rw [hfile.2 hfree]
    simp [hfree]

end File

/-! ## A page with a stray `?>` -/

/-- The builtin `pid` as the only expander, in a process of number 42. -/
def pidDict : ExpanderDict Unit :=
  (ExpanderDict.empty.register "pid".toList fun _ _ => "42".toList).toOption.getD .empty

theorem expandTemplateFile_eq_meaning_iff_page :
    expandTemplateFile pidDict (fun _ => ()) (fun _ => some ⟨true, "<p><?hcv pid?></p>".toList⟩)
        "/page".toList [] =
        .ok ([] ++ templateMeaning pidDict (fun _ => ()) "/page".toList
          "<p><?hcv pid?></p>".toList) ↔
      (∀ line ∈ scannedLines 1 (lines "<p><?hcv pid?></p>".toList), StrayFree line) ∧
        ∀ p ∈ filePieces 1 0 (lines "<p><?hcv pid?></p>".toList),
          ¬ p.Misread pidDict (fun _ => ()) "/page".toList :=
  expandTemplateFile_eq_meaning_iff pidDict _ (by decide) rfl (by decide) (by decide)

/-- The stray `?>` makes the expansion throw. -/
theorem expandTemplateFile_stray_closing :
    expandTemplateFile pidDict (fun _ => ())
        (fun _ => some ⟨true, "abcdef?>x<?hcv pid?>".toList⟩) "/page".toList [] =
      .error .lengthError ∧
    templateMeaning pidDict (fun _ => ()) "/page".toList "abcdef?>x<?hcv pid?>".toList =
      "abcdef?>x42\n".toList := by
  constructor <;> decide +kernel

end HelpCovid.Template
