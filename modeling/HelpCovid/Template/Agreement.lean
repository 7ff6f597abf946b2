import HelpCovid.Template.Expansion

/-!
# The string expander against the file expander

`hcv_expand_template_string` copies the literal text of a template to a stream
of its own and returns that stream, while the expanders write to the stream of
the template data. So the string it returns is the template without what its
markups stand for, and the two expanders return the same string exactly when
no markup writes anything (`expandTemplateString_agrees_iff`).
-/

namespace HelpCovid.Template

open CText

/-! ## What the loop writes on each stream -/

section Output

variable {ε : Type*} (dict : ExpanderDict ε) (env : Nat → ε) (filename : Text)

/-- The literal text of a piece. -/
def Piece.literal : Piece → Text
  | .text s => s
  | .markup _ _ _ _ => []

/-- What the expander of a piece writes. -/
def Piece.expanded : Piece → Text
  | .text _ => []
  | .markup position lineno offset procinstr =>
      written dict (env position) ⟨procinstr, filename, lineno, offset⟩

theorem foldl_emit_own (ps : List Piece) (st : Streams) :
    ps.foldl (Streams.emit dict env .own filename) st =
      (st.put .own (ps.flatMap Piece.literal)).expand
        (ps.flatMap (Piece.expanded dict env filename)) := by
  induction ps generalizing st with
  | nil => simp
  | cons p ps ih =>
      rw [List.foldl_cons, ih, List.flatMap_cons, List.flatMap_cons]
      cases p <;>
        simp [Streams.emit, Streams.put, Streams.expand, Piece.literal, Piece.expanded]

/-- The output of a piece is its literal text unless the piece is a markup that
writes something; a markup has no literal text. -/
theorem Piece.literal_eq_output_iff {p : Piece} (h : p.Opens) :
    (p.literal = p.output dict env filename ↔ ¬ p.Writes dict env filename) ∧
      (p.Writes dict env filename → p.literal = []) := by
  cases p with
  | text s => simp [Piece.literal, Piece.output, Piece.Writes]
  | markup position lineno offset procinstr =>
      simp only [Piece.Opens] at h
      simp only [Piece.literal, Piece.output, implies_true, and_true]
      rw [← Piece.written_ne_nil_iff dict env filename h, not_not, eq_comm]

end Output

/-! ## The loop over the lines of a stream -/

/-- The pieces of a stream, where no line is a declaration. -/
def streamPieces : (lineno off : Nat) → List Text → List Piece
  | _, _, [] => []
  | lineno, off, line :: rest =>
      linePieces lineno off 0 line ++
        .text ['\n'] :: streamPieces (lineno + 1) (off + line.length + 1) rest

/-- None of the first `n` lines begins with `<!`. -/
def NoDeclaration (n : Nat) (ls : List Text) : Prop :=
  ∀ line ∈ ls.take n, ¬ ['<', '!'] <+: line

theorem declarationLine_of_noDeclaration {lineno : Nat} {line : Text} {rest : List Text}
    (h : NoDeclaration (8 - lineno) (line :: rest)) : declarationLine lineno line = false := by
  unfold declarationLine
  by_cases hlt : lineno < 8
  · have hmem : line ∈ (line :: rest).take (8 - lineno) := by
      rw [← Nat.sub_add_cancel (Nat.sub_pos_of_lt hlt), List.take_succ_cons]
      simp
    have hstart : ['<', '!'].isPrefixOf line = false := by
      rw [← Bool.not_eq_true, List.isPrefixOf_iff_prefix]
      exact h line hmem
    rw [hstart, Bool.and_false]
  · simp [hlt]

theorem NoDeclaration.tail {lineno : Nat} {line : Text} {rest : List Text}
    (h : NoDeclaration (8 - lineno) (line :: rest)) : NoDeclaration (8 - (lineno + 1)) rest := by
  intro l hl
  by_cases hlt : lineno < 8
  · have hsucc : 8 - lineno = 8 - (lineno + 1) + 1 := by omega
    apply h
    rw [hsucc, List.take_succ_cons]
    exact List.mem_cons_of_mem _ hl
  · have hzero : 8 - (lineno + 1) = 0 := by omega
    rw [hzero] at hl
    simp at hl

/-- Without declarations the file expander scans every line too. -/
theorem scannedLines_eq {lineno off : Nat} {ls : List Text}
    (h : NoDeclaration (8 - lineno) ls) :
    scannedLines lineno ls = ls ∧ filePieces lineno off ls = streamPieces lineno off ls := by
  induction ls generalizing lineno off with
  | nil => exact ⟨rfl, rfl⟩
  | cons line rest ih =>
      have hdecl := declarationLine_of_noDeclaration h
      have hrest : scannedLines (lineno + 1) rest = rest ∧
          filePieces (lineno + 1) (off + line.length + 1) rest =
            streamPieces (lineno + 1) (off + line.length + 1) rest := ih h.tail
      constructor
      · simp [scannedLines, hdecl, hrest.1]
      · simp [filePieces, streamPieces, hdecl, hrest.2]

section Stream

variable {ε : Type*} (dict : ExpanderDict ε) (env : Nat → ε)

theorem expandStreamLines_eq (inpname : Text) (lineno off : Nat) (ls : List Text) (st : Streams)
    (hnul : ∀ line ∈ ls, '\x00' ∉ line)
    (hsize : off + (unlines ls).length ≤ maxTemplateSize + 1) :
    ((∀ line ∈ ls, StrayFree line) →
      expandStreamLines dict env inpname lineno off ls st =
        .ok ((st.put .own ((streamPieces lineno off ls).flatMap Piece.literal)).expand
          ((streamPieces lineno off ls).flatMap (Piece.expanded dict env inpname)))) ∧
    (¬ (∀ line ∈ ls, StrayFree line) →
      expandStreamLines dict env inpname lineno off ls st = .error .lengthError) := by
  induction ls generalizing lineno off st with
  | nil => simp [expandStreamLines, streamPieces]
  | cons line rest ih =>
      have hlen : (unlines (line :: rest)).length =
          line.length + 1 + (unlines rest).length := by simp [unlines]; omega
      have hline := scanLine_eq dict env .own inpname lineno off line st (hnul line (by simp))
      rw [emitLine, foldl_emit_own] at hline
      have hfits : ¬ off > maxTemplateSize := by omega
      simp only [expandStreamLines, if_neg hfits, List.forall_mem_cons]
      by_cases hfree : StrayFree line
      · have hrest := ih (lineno + 1) (off + line.length + 1)
          (((st.put .own ((linePieces lineno off 0 line).flatMap Piece.literal)).expand
            ((linePieces lineno off 0 line).flatMap (Piece.expanded dict env inpname))).put
              .own ['\n'])
          (fun l hl => hnul l (List.mem_cons_of_mem _ hl)) (by omega)
        rw [hline.1 hfree]
        simpa [hfree, streamPieces, Streams.put, Streams.expand, Piece.literal, Piece.expanded]
          using hrest
      · rw [hline.2 hfree]
        simp [hfree]

/-- The string expander returns the literal text and leaves what the expanders
write on the stream of the template data. -/
theorem expandTemplateString_eq {text : Text} (inpname : Option Text) (outs : Text)
    (hsize : text.length ≤ maxTemplateSize) (hnul : '\x00' ∉ text) :
    ((∀ line ∈ lines text, StrayFree line) →
      expandTemplateString dict env text inpname outs =
        .ok ((streamPieces 1 0 (lines text)).flatMap Piece.literal,
          outs ++ (streamPieces 1 0 (lines text)).flatMap
            (Piece.expanded dict env (inpname.getD "??*null*??".toList)))) ∧
    (¬ (∀ line ∈ lines text, StrayFree line) →
      expandTemplateString dict env text inpname outs = .error .lengthError) := by
  have hlong := length_unlines_lines text
  have hlines := expandStreamLines_eq dict env (inpname.getD "??*null*??".toList) 1 0
    (lines text) ⟨outs, []⟩ (fun line hline hmem => hnul (mem_of_mem_lines hline hmem))
    (by omega)
  simp only [expandTemplateString, expandTemplateInputStream]
  constructor
  · intro h
    rw [hlines.1 h]
    rfl
  · intro h
    rw [hlines.2 h]

/-- **The two expanders.** Where no line among the first seven is a declaration,
they return the same string if and only if no line has a stray `?>` before a
markup and no markup of the file writes anything. -/
theorem expandTemplateString_agrees_iff {fs : Text → Option SourceFile} {path text : Text}
    (inpname : Option Text) (hpath : path ≠ []) (hfile : fs path = some ⟨true, text⟩)
    (hsize : text.length ≤ maxTemplateSize) (hnul : '\x00' ∉ text)
    (hdecl : NoDeclaration 7 (lines text)) :
    (∃ s data, expandTemplateString dict env text inpname [] = .ok (s, data) ∧
        expandTemplateFile dict env fs path [] = .ok s) ↔
      (∀ line ∈ lines text, StrayFree line) ∧
        ∀ p ∈ filePieces 1 0 (lines text), ¬ p.Writes dict env path := by
  have hstring := expandTemplateString_eq dict env inpname [] hsize hnul
  have hfile := expandTemplateFile_eq dict env [] hpath hfile hsize hnul
  have hsame : scannedLines 1 (lines text) = lines text ∧
      filePieces 1 0 (lines text) = streamPieces 1 0 (lines text) := scannedLines_eq hdecl
  have hpiece : ∀ p ∈ filePieces 1 0 (lines text), _ := fun p hp =>
    Piece.literal_eq_output_iff dict env path (filePieces_opens 1 0 (lines text) p hp)
  rw [hsame.1] at hfile
  by_cases hfree : ∀ line ∈ lines text, StrayFree line
  · -- both return: the literal text against the whole output
    rw [hstring.1 hfree, hfile.1 hfree, and_iff_right hfree, ← hsame.2, List.nil_append,
      List.nil_append]
    have hagree : (filePieces 1 0 (lines text)).flatMap Piece.literal =
        (filePieces 1 0 (lines text)).flatMap (Piece.output dict env path) ↔
          ∀ p ∈ filePieces 1 0 (lines text), ¬ p.Writes dict env path :=
      flatMap_eq_flatMap_iff hpiece
    rw [← hagree]
    simp only [Except.ok.injEq, Prod.mk.injEq]
    constructor
    · rintro ⟨s, data, ⟨hs, -⟩, hout⟩
      rw [hs, hout]
    · intro heq
      exact ⟨_, _, ⟨rfl, rfl⟩, heq.symm⟩
  · -- both throw at the stray line
    rw [hstring.2 hfree]
    simp [hfree]

end Stream

theorem expandTemplateString_agrees_iff_page :
    (∃ s data, expandTemplateString pidDict (fun _ => ()) "<p><?hcv pid?></p>".toList none [] =
          .ok (s, data) ∧
        expandTemplateFile pidDict (fun _ => ())
          (fun _ => some ⟨true, "<p><?hcv pid?></p>".toList⟩) "/page".toList [] = .ok s) ↔
      (∀ line ∈ lines "<p><?hcv pid?></p>".toList, StrayFree line) ∧
        ∀ p ∈ filePieces 1 0 (lines "<p><?hcv pid?></p>".toList),
          ¬ p.Writes pidDict (fun _ => ()) "/page".toList :=
  expandTemplateString_agrees_iff pidDict _ none (by decide) rfl (by decide) (by decide)
    (by unfold NoDeclaration; decide)

/-- The page the file expander fills in is returned with a hole, and what the
expander wrote stays behind. -/
theorem expandTemplateString_loses_output :
    expandTemplateString pidDict (fun _ => ()) "process <?hcv pid?>.".toList none [] =
        .ok ("process .\n".toList, "42".toList) ∧
      expandTemplateFile pidDict (fun _ => ())
          (fun _ => some ⟨true, "process <?hcv pid?>.".toList⟩) "/page".toList [] =
        .ok "process 42.\n".toList := by
  constructor <;> decide +kernel

end HelpCovid.Template
