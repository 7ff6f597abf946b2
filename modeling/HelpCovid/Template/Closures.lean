import HelpCovid.Template.Dispatch

/-!
# Closures that may abort

Some closures of `hcv_initialize_templates` end the process on some markups, and
then the rest of the page is not expanded. So the scanner of
`hcv_expand_template_file` is given here over any way `expand` of expanding one
instruction, which returns a text or fails; with the instructions of a
dictionary of total closures it is `expandTemplateFile`.

`Step` is what the scanner does, one thing after the other: copy some text of
the template, have an instruction of the template expanded, give up. The steps
are found from the template alone (`expandTemplateFileWith_eq_perform`): what an
expander writes is not looked at again.
-/

namespace HelpCovid.Template

open CText

/-- `hcv_register_template_expander_closure` for closures of any kind. -/
def registerClosure {γ : Type*} (dict : StdMap Text γ) (name : Text) (expfun : γ) :
    Except Failure (StdMap Text γ) :=
  (checkName name).map fun _ => dict.insertIfNew name expfun

theorem ExpanderDict.register_entries {ε : Type*} (dict : ExpanderDict ε) (name : Text)
    (expfun : Expander ε) :
    (dict.register name expfun).map ExpanderDict.entries =
      registerClosure dict.entries name expfun := by
  unfold ExpanderDict.register
  split
  · next e h =>
      rw [registerClosure, h]
      rfl
  · next h =>
      have hreg : registerClosure dict.entries name expfun =
          .ok (dict.entries.insertIfNew name expfun) := by
        rw [registerClosure, h]
        rfl
      exact hreg.symm

/-! ## The scanner -/

section Scan

variable {φ : Type*} (ofScan : Failure → φ) (expand : Nat → Call → Except φ Text)
  (filename : Text) (lineno off : Nat)

/-- The loop over one line, as in `scanLoop`; the literal text and what the
expanders write go to the same stream `outs`. -/
def scanLoopWith : Nat → Nat → Text → Text → Except φ Text
  | 0, _, _, _ => .error (ofScan .outOfFuel)
  | fuel + 1, col, cur, outs =>
      match strstr opening cur with
      | none => .ok (outs ++ cur)
      | some startpi =>
          match strstr closing (cur.drop opening.length) with
          | none => .ok (outs ++ cur)
          | some endpi =>
              let next := opening.length + endpi + closing.length
              let before := cur.take startpi
              if next < startpi then .error (ofScan .lengthError)
              else
                let procinstr := (cur.drop startpi).take (next - startpi)
                match expand (off + col + startpi) ⟨procinstr, filename, lineno, off⟩ with
                | .error e => .error e
                | .ok s => scanLoopWith fuel (col + next) (cur.drop next) (outs ++ before ++ s)

def scanLineWith (linbuf outs : Text) : Except φ Text :=
  let linestr := cstr linbuf
  match scanLoopWith ofScan expand filename lineno off (linestr.length + 1) 0 linestr outs with
  | .error e => .error e
  | .ok outs' => .ok (outs' ++ ['\n'])

end Scan

section Files

variable {φ : Type*} (ofScan : Failure → φ) (expand : Nat → Call → Except φ Text)

/-- The loop of `hcv_expand_template_file` over the lines. -/
def expandFileLinesWith (path : Text) : (lineno off : Nat) → List Text → Text → Except φ Text
  | _, _, [], outs => .ok outs
  | lineno, off, linbuf :: rest, outs =>
      let line :=
        if linbuf.isEmpty then .ok (outs ++ ['\n'])
        else if verbatimLine lineno linbuf then .ok (outs ++ linbuf ++ ['\n'])
        else scanLineWith ofScan expand path lineno off linbuf outs
      match line with
      | .error e => .error e
      | .ok outs' => expandFileLinesWith path (lineno + 1) (off + linbuf.length + 1) rest outs'

/-- `hcv_expand_template_file` -/
def expandTemplateFileWith (fs : Text → Option SourceFile) (srcfilepath outs : Text) :
    Except φ Text :=
  if srcfilepath.isEmpty then .error (ofScan (.fatal .emptySourcePath))
  else match fs srcfilepath with
    | none => .error (ofScan (.fatal (.statFailure srcfilepath)))
    | some src =>
        if !src.isRegular then .error (ofScan (.fatal (.notRegularFile srcfilepath)))
        else if src.contents.length > maxTemplateSize then
          .error (ofScan (.fatal (.sourceTooBig srcfilepath src.contents.length)))
        else expandFileLinesWith ofScan expand srcfilepath 1 0 (lines src.contents) outs

end Files

/-! ## With total closures -/

section Total

variable {ε : Type*} (dict : ExpanderDict ε) (env : Nat → ε)

/-- How the instructions of a dictionary of total closures are expanded. -/
def dictExpand (position : Nat) (call : Call) : Except Failure Text :=
  expandProcessingInstruction dict (env position) call

theorem scanLoop_eq_with (filename : Text) (lineno off fuel col : Nat) (cur : Text)
    (st : Streams) :
    scanLoop dict env .data filename lineno off fuel col cur st =
      (scanLoopWith id (dictExpand dict env) filename lineno off fuel col cur st.data).map
        fun outs => { st with data := outs } := by
  induction fuel generalizing col cur st with
  | zero => rfl
  | succ fuel ih =>
      unfold scanLoop scanLoopWith
      cases strstr opening cur with
      | none => rfl
      | some startpi =>
          cases strstr closing (cur.drop opening.length) with
          | none => rfl
          | some endpi =>
              simp only
              split
              · rfl
              · simp only [dictExpand]
                cases expandProcessingInstruction dict (env (off + col + startpi))
                    ⟨_, filename, lineno, off⟩ with
                | error e => rfl
                | ok s => exact ih _ _ _

theorem expandFileLines_eq_with (path : Text) (lineno off : Nat) (ls : List Text)
    (st : Streams) :
    expandFileLines dict env path lineno off ls st =
      (expandFileLinesWith id (dictExpand dict env) path lineno off ls st.data).map
        fun outs => { st with data := outs } := by
  induction ls generalizing lineno off st with
  | nil => rfl
  | cons linbuf rest ih =>
      unfold expandFileLines expandFileLinesWith
      by_cases hempty : linbuf.isEmpty = true
      · rw [if_pos hempty, if_pos hempty]
        exact ih _ _ _
      · rw [if_neg hempty, if_neg hempty]
        by_cases hverbatim : verbatimLine lineno linbuf = true
        · rw [if_pos hverbatim, if_pos hverbatim]
          exact ih _ _ _
        · rw [if_neg hverbatim, if_neg hverbatim]
          unfold scanLine scanLineWith
          simp only [scanLoop_eq_with]
          cases scanLoopWith id (dictExpand dict env) path lineno off ((cstr linbuf).length + 1) 0
              (cstr linbuf) st.data with
          | error e => rfl
          | ok outs => exact ih _ _ _

/-- The scanner of `Scanner.lean` is the one of this file with total closures. -/
theorem expandTemplateFile_eq_with (fs : Text → Option SourceFile) (srcfilepath outs : Text) :
    expandTemplateFile dict env fs srcfilepath outs =
      expandTemplateFileWith id (dictExpand dict env) fs srcfilepath outs := by
  unfold expandTemplateFile expandTemplateFileWith
  split
  · rfl
  · cases fs srcfilepath with
    | none => rfl
    | some src =>
        simp only
        split
        · rfl
        · split
          · rfl
          · rw [expandFileLines_eq_with]
            cases expandFileLinesWith id (dictExpand dict env) srcfilepath 1 0 (lines src.contents)
                outs <;> rfl

end Total

/-! ## The steps of a scan -/

/-- What the scanner does next. -/
inductive Step where
  | copy (s : Text)
  | call (position : Nat) (call : Call)
  | throw (failure : Failure)
deriving Repr, DecidableEq

section Steps

variable (filename : Text) (lineno off : Nat)

def loopSteps : Nat → Nat → Text → List Step
  | 0, _, _ => [.throw .outOfFuel]
  | fuel + 1, col, cur =>
      match strstr opening cur with
      | none => [.copy cur]
      | some startpi =>
          match strstr closing (cur.drop opening.length) with
          | none => [.copy cur]
          | some endpi =>
              let next := opening.length + endpi + closing.length
              if next < startpi then [.throw .lengthError]
              else
                .copy (cur.take startpi) ::
                  .call (off + col + startpi)
                    ⟨(cur.drop startpi).take (next - startpi), filename, lineno, off⟩ ::
                  loopSteps fuel (col + next) (cur.drop next)

def lineSteps (linbuf : Text) : List Step :=
  loopSteps filename lineno off ((cstr linbuf).length + 1) 0 (cstr linbuf) ++ [.copy ['\n']]

end Steps

def fileLinesSteps (path : Text) : (lineno off : Nat) → List Text → List Step
  | _, _, [] => []
  | lineno, off, linbuf :: rest =>
      (if linbuf.isEmpty then [.copy ['\n']]
      else if verbatimLine lineno linbuf then [.copy (linbuf ++ ['\n'])]
      else lineSteps path lineno off linbuf) ++
        fileLinesSteps path (lineno + 1) (off + linbuf.length + 1) rest

/-- The steps of `hcv_expand_template_file`. -/
def fileSteps (fs : Text → Option SourceFile) (srcfilepath : Text) : List Step :=
  if srcfilepath.isEmpty then [.throw (.fatal .emptySourcePath)]
  else match fs srcfilepath with
    | none => [.throw (.fatal (.statFailure srcfilepath))]
    | some src =>
        if !src.isRegular then [.throw (.fatal (.notRegularFile srcfilepath))]
        else if src.contents.length > maxTemplateSize then
          [.throw (.fatal (.sourceTooBig srcfilepath src.contents.length))]
        else fileLinesSteps srcfilepath 1 0 (lines src.contents)

/-- A step that the scanner can take: it never runs out of turns. -/
def Step.Sound : Step → Prop
  | .throw failure => failure ≠ .outOfFuel
  | _ => True

theorem loopSteps_sound (filename : Text) (lineno off col : Nat) {fuel : Nat} {cur : Text}
    (h : cur.length < fuel) : ∀ step ∈ loopSteps filename lineno off fuel col cur, step.Sound := by
  induction fuel generalizing col cur with
  | zero => exact absurd h (Nat.not_lt_zero _)
  | succ fuel ih =>
      intro step hstep
      unfold loopSteps at hstep
      split at hstep
      · rcases List.mem_singleton.mp hstep with rfl
        exact True.intro
      · next startpi hstart =>
          split at hstep
          · rcases List.mem_singleton.mp hstep with rfl
            exact True.intro
          · next endpi hend =>
              simp only at hstep
              split at hstep
              · rcases List.mem_singleton.mp hstep with rfl
                exact Failure.noConfusion
              · rcases List.mem_cons.mp hstep with rfl | hstep
                · exact True.intro
                · rcases List.mem_cons.mp hstep with rfl | hstep
                  · exact True.intro
                  · -- a turn moves forward
                    refine ih _ ?_ step hstep
                    have hlen := strstr_le_length hstart opening_ne_nil
                    have hpos : 0 < opening.length := List.length_pos_iff.mpr opening_ne_nil
                    rw [List.length_drop]
                    omega

theorem fileSteps_sound (fs : Text → Option SourceFile) (srcfilepath : Text) :
    ∀ step ∈ fileSteps fs srcfilepath, step.Sound := by
  have hlines : ∀ (ls : List Text) (lineno off : Nat),
      ∀ step ∈ fileLinesSteps srcfilepath lineno off ls, step.Sound := by
    intro ls
    induction ls with
    | nil => simp [fileLinesSteps]
    | cons linbuf rest ih =>
        intro lineno off step hstep
        unfold fileLinesSteps at hstep
        rcases List.mem_append.mp hstep with hline | hrest
        · split at hline
          · rcases List.mem_singleton.mp hline with rfl
            exact True.intro
          · split at hline
            · rcases List.mem_singleton.mp hline with rfl
              exact True.intro
            · rcases List.mem_append.mp hline with hloop | hnewline
              · exact loopSteps_sound _ _ _ _ (Nat.lt_succ_self _) step hloop
              · rcases List.mem_singleton.mp hnewline with rfl
                exact True.intro
        · exact ih _ _ step hrest
  intro step hstep
  unfold fileSteps at hstep
  split at hstep
  · rcases List.mem_singleton.mp hstep with rfl
    exact Failure.noConfusion
  · split at hstep
    · rcases List.mem_singleton.mp hstep with rfl
      exact Failure.noConfusion
    · split at hstep
      · rcases List.mem_singleton.mp hstep with rfl
        exact Failure.noConfusion
      · split at hstep
        · rcases List.mem_singleton.mp hstep with rfl
          exact Failure.noConfusion
        · exact hlines _ _ _ step hstep

section Perform

variable {φ : Type*} (ofScan : Failure → φ) (expand : Nat → Call → Except φ Text)

/-- The steps taken one after the other, up to the first that fails. -/
def perform : List Step → Text → Except φ Text
  | [], outs => .ok outs
  | .copy s :: rest, outs => perform rest (outs ++ s)
  | .call position call :: rest, outs =>
      match expand position call with
      | .error e => .error e
      | .ok s => perform rest (outs ++ s)
  | .throw failure :: _, _ => .error (ofScan failure)

theorem perform_append (a b : List Step) (outs : Text) :
    perform ofScan expand (a ++ b) outs =
      (perform ofScan expand a outs).bind (perform ofScan expand b) := by
  induction a generalizing outs with
  | nil => rfl
  | cons step a ih =>
      cases step with
      | copy s => exact ih _
      | throw failure => rfl
      | call position call =>
          simp only [List.cons_append, perform]
          cases expand position call with
          | error e => rfl
          | ok s => exact ih _

theorem scanLoopWith_eq_perform (filename : Text) (lineno off fuel col : Nat) (cur outs : Text) :
    scanLoopWith ofScan expand filename lineno off fuel col cur outs =
      perform ofScan expand (loopSteps filename lineno off fuel col cur) outs := by
  induction fuel generalizing col cur outs with
  | zero => rfl
  | succ fuel ih =>
      unfold scanLoopWith loopSteps
      cases strstr opening cur with
      | none => rfl
      | some startpi =>
          cases strstr closing (cur.drop opening.length) with
          | none => rfl
          | some endpi =>
              simp only
              split
              · rfl
              · simp only [perform]
                cases expand (off + col + startpi) ⟨_, filename, lineno, off⟩ with
                | error e => rfl
                | ok s => exact ih _ _ _

theorem expandFileLinesWith_eq_perform (path : Text) (lineno off : Nat) (ls : List Text)
    (outs : Text) :
    expandFileLinesWith ofScan expand path lineno off ls outs =
      perform ofScan expand (fileLinesSteps path lineno off ls) outs := by
  induction ls generalizing lineno off outs with
  | nil => rfl
  | cons linbuf rest ih =>
      unfold expandFileLinesWith fileLinesSteps
      by_cases hempty : linbuf.isEmpty = true
      · rw [if_pos hempty, if_pos hempty]
        exact ih _ _ _
      · rw [if_neg hempty, if_neg hempty]
        by_cases hverbatim : verbatimLine lineno linbuf = true
        · rw [if_pos hverbatim, if_pos hverbatim]
          simp only [List.append_assoc]
          exact ih _ _ _
        · rw [if_neg hverbatim, if_neg hverbatim, perform_append, lineSteps, perform_append]
          unfold scanLineWith
          simp only [scanLoopWith_eq_perform]
          cases perform ofScan expand
              (loopSteps path lineno off ((cstr linbuf).length + 1) 0 (cstr linbuf)) outs with
          | error e => rfl
          | ok outs' => exact ih _ _ _

/-- **The scanner reads the template only.** Its steps are those found in the
template, whatever the expanders write. -/
theorem expandTemplateFileWith_eq_perform (fs : Text → Option SourceFile)
    (srcfilepath outs : Text) :
    expandTemplateFileWith ofScan expand fs srcfilepath outs =
      perform ofScan expand (fileSteps fs srcfilepath) outs := by
  unfold expandTemplateFileWith fileSteps
  split
  · rfl
  · cases fs srcfilepath with
    | none => rfl
    | some src =>
        simp only
        split
        · rfl
        · split
          · rfl
          · exact expandFileLinesWith_eq_perform ofScan expand srcfilepath 1 0 _ outs

end Perform

end HelpCovid.Template
