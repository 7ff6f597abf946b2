import HelpCovid.Template.Builtins

/-!
# Request text cannot inject HTML

Two requests that differ only in method and path give pages with the same tags
and quotes. The closures that write one of the two encode it, the others do not
depend on them, and what a closure writes is not scanned for markups.
-/

namespace HelpCovid.Template

open CText Web Views

/-- Two expansions with the same outcome up to text: both fail, or they write
the same subsequence of characters that open or close tags and values. -/
def SameMarkup (r r' : Except PageFailure Text) : Prop :=
  match r, r' with
  | .ok s, .ok s' => s.filter isMarkupChar = s'.filter isMarkupChar
  | .error _, .error _ => True
  | _, _ => False

theorem SameMarkup.refl (r : Except PageFailure Text) : SameMarkup r r := by
  cases r with
  | error e => exact True.intro
  | ok s => exact rfl

/-- A closure whose output has the same tags and quotes whatever the method and
the path. -/
def Unaffected (clos : Builtin) : Prop :=
  ∀ srv method path method' path' lang reqnum reading call,
    SameMarkup (clos srv ⟨⟨method, path, lang⟩, reqnum⟩ reading call)
      (clos srv ⟨⟨method', path', lang⟩, reqnum⟩ reading call)

/-- A closure that encodes what it writes. -/
theorem unaffected_encoded (source : Server → TemplateData → Reading → Call → Text) :
    Unaffected (encoded source) := by
  intro srv method path method' path' lang reqnum reading call
  show List.filter _ _ = List.filter _ _
  rw [outputCstrEncodedHtml_noMarkup, outputCstrEncodedHtml_noMarkup]

/-- A closure that reads neither. -/
theorem unaffected_of_eq {clos : Builtin}
    (h : ∀ srv method path method' path' lang reqnum reading call,
      clos srv ⟨⟨method, path, lang⟩, reqnum⟩ reading call =
        clos srv ⟨⟨method', path', lang⟩, reqnum⟩ reading call) : Unaffected clos := by
  intro srv method path method' path' lang reqnum reading call
  rw [h srv method path method' path' lang reqnum reading call]
  exact SameMarkup.refl _

/-- A message depends on the language of the request only. -/
theorem unaffected_msg : Unaffected expandMsg :=
  unaffected_of_eq fun _ _ _ _ _ _ _ _ _ => rfl

/-- Every builtin, one by one. -/
theorem unaffected_builtins : ∀ builtin ∈ builtins, Unaffected builtin.2 := by
  simp only [builtins, List.forall_mem_cons]
  refine ⟨unaffected_encoded _, unaffected_encoded _, unaffected_of_eq ?_, unaffected_encoded _,
    unaffected_encoded _, unaffected_of_eq ?_, unaffected_encoded _, unaffected_encoded _,
    unaffected_of_eq ?_, unaffected_of_eq ?_, unaffected_encoded _, unaffected_encoded _,
    unaffected_encoded _, unaffected_encoded _, unaffected_of_eq ?_, unaffected_of_eq ?_,
    unaffected_of_eq ?_, unaffected_of_eq ?_, unaffected_msg, unaffected_of_eq ?_,
    by simp⟩ <;> intros <;> rfl

/-- One instruction. -/
theorem expandWith_sameMarkup (srv : Server) (method path method' path' lang : Text)
    (reqnum : Int) (reading : Reading) (call : Call) :
    SameMarkup (expandWith builtinDict srv ⟨⟨method, path, lang⟩, reqnum⟩ reading call)
      (expandWith builtinDict srv ⟨⟨method', path', lang⟩, reqnum⟩ reading call) := by
  unfold expandWith
  cases hdispatch : dispatch builtinDict call.procinstr with
  | error e => exact True.intro
  | ok found =>
      cases found with
      | none => exact rfl
      | some clos =>
          rcases mem_builtins_of_dispatch hdispatch with ⟨name, hmem⟩
          exact unaffected_builtins _ hmem srv method path method' path' lang reqnum reading call

/-- All the steps of a scan: outputs that agree so far agree to the end. -/
theorem perform_sameMarkup {expand expand' : Nat → Call → Except PageFailure Text}
    (h : ∀ position call, SameMarkup (expand position call) (expand' position call))
    (steps : List Step) {outs outs' : Text}
    (houts : outs.filter isMarkupChar = outs'.filter isMarkupChar) :
    SameMarkup (perform .scan expand steps outs) (perform .scan expand' steps outs') := by
  induction steps generalizing outs outs' with
  | nil => exact houts
  | cons step steps ih =>
      cases step with
      | throw failure => exact True.intro
      | copy s =>
          apply ih
          rw [List.filter_append, List.filter_append, houts]
      | call position call =>
          have hcall := h position call
          simp only [perform]
          cases hs : expand position call with
          | error e =>
              cases hs' : expand' position call with
              | error e' => exact True.intro
              | ok s' =>
                  rw [hs, hs'] at hcall
                  exact False.elim hcall
          | ok s =>
              cases hs' : expand' position call with
              | error e' =>
                  rw [hs, hs'] at hcall
                  exact False.elim hcall
              | ok s' =>
                  rw [hs, hs'] at hcall
                  have hfilter : s.filter isMarkupChar = s'.filter isMarkupChar := hcall
                  apply ih
                  rw [List.filter_append, List.filter_append, houts, hfilter]

/-- **No injection.** A page for two requests that differ only in method and path
either fails for both or has the same tags and quotes for both; and what is
copied and which instructions are expanded, where and in which order, is found
in the template alone. -/
theorem expandPage_sameMarkup (srv : Server) (env : Nat → Reading)
    (fs : Text → Option SourceFile) (srcfilepath method path method' path' lang : Text)
    (reqnum : Int) :
    SameMarkup (expandPage srv ⟨⟨method, path, lang⟩, reqnum⟩ env fs srcfilepath)
        (expandPage srv ⟨⟨method', path', lang⟩, reqnum⟩ env fs srcfilepath) ∧
      ∃ steps : List Step, (∀ step ∈ steps, step.Sound) ∧
        ∀ expand : Nat → Call → Except PageFailure Text,
          expandTemplateFileWith .scan expand fs srcfilepath [] =
            perform .scan expand steps [] := by
  refine ⟨?_, fileSteps fs srcfilepath, fileSteps_sound fs srcfilepath, fun expand =>
    expandTemplateFileWith_eq_perform .scan expand fs srcfilepath []⟩
  unfold expandPage
  rw [expandTemplateFileWith_eq_perform, expandTemplateFileWith_eq_perform]
  apply perform_sameMarkup
  · intro position call
    exact expandWith_sameMarkup srv method path method' path' lang reqnum (env position) call
  · rfl

end HelpCovid.Template
