import HelpCovid.Template.Builtins

/-!
# Which translations a page asks for

The identifiers that `hcv_view_expand_msg` passes to `dgettext` while a page is
expanded. `dgettext` has no other influence on the page (`expandPage_congr`).
-/

namespace HelpCovid.Views

open CText ChunkMap Template Web

/-- The name `hcv_expand_processing_instruction` looks up for `procinstr`. -/
def calledName (procinstr : Text) : Except Failure (Option Text) :=
  match scanInstruction (cstr procinstr) with
  | none => .ok none
  | some (namebuf, rest) =>
      match strstr closing rest with
      | none => .error (.fatal (.corruptedInstruction procinstr))
      | some endpi =>
          if rest.length ≠ endpi + closing.length then
            .error (.fatal (.corruptedInstruction procinstr))
          else .ok (some namebuf)

theorem dispatch_eq_calledName {γ : Type*} (dict : StdMap Text γ) (procinstr : Text) :
    dispatch dict procinstr =
      (calledName procinstr).map fun found => found.bind fun name : Text => dict[name]? := by
  unfold dispatch calledName
  cases scanInstruction (cstr procinstr) with
  | none => rfl
  | some field =>
      rcases field with ⟨namebuf, rest⟩
      cases hend : strstr closing rest with
      | none => simp only [hend, Except.map]
      | some endpi =>
          simp only [hend]
          split <;> rfl

/-- What `hcv_view_expand_msg` passes to `dgettext`, if it comes to that. -/
def messageLookup (globchunkMap : StdMap Text Text) (procinstr : Text) : Option Text :=
  match scanMsgid "msg".toList (cstr procinstr) with
  | none => none
  | some (msgidbuf, begmsg) =>
      if !startsAlpha msgidbuf then none
      else match strstr closing begmsg with
        | none => none
        | some _ =>
            if (getChunkmapEntry globchunkMap msgidbuf).isEmpty then some msgidbuf else none

/-- What an instruction passes to `dgettext`. -/
def callLookup (srv : Server) (call : Call) : Option Text :=
  match calledName call.procinstr with
  | .ok (some name) =>
      if name = "msg".toList then messageLookup srv.globchunkMap call.procinstr else none
  | _ => none

/-- What the steps of a scan pass to `dgettext`, up to the first that fails. -/
def stepLookups (srv : Server) (tdata : TemplateData) (env : Nat → Reading) : List Step → List Text
  | [] => []
  | .copy _ :: rest => stepLookups srv tdata env rest
  | .call position call :: rest =>
      (callLookup srv call).toList ++
        match expandWith builtinDict srv tdata (env position) call with
        | .error _ => []
        | .ok _ => stepLookups srv tdata env rest
  | .throw _ :: _ => []

/-- What the expansion of a page passes to `dgettext`. -/
def pageLookups (srv : Server) (tdata : TemplateData) (env : Nat → Reading)
    (fs : Text → Option SourceFile) (srcfilepath : Text) : List Text :=
  stepLookups srv tdata env (fileSteps fs srcfilepath)

/-! ## No other identifier matters -/

/-- The same server with other translations. -/
def translated (srv : Server) (dgettext : Text → Text) : Server := { srv with dgettext := dgettext }

theorem viewExpandMsg_congr {globchunkMap : StdMap Text Text} {dgettext dgettext' : Text → Text}
    {procinstr : Text}
    (h : ∀ id, messageLookup globchunkMap procinstr = some id → dgettext id = dgettext' id)
    (req : Request) :
    viewExpandMsg globchunkMap dgettext req procinstr =
      viewExpandMsg globchunkMap dgettext' req procinstr := by
  unfold viewExpandMsg
  unfold messageLookup at h
  cases hscan : scanMsgid "msg".toList (cstr procinstr) with
  | none => rfl
  | some field =>
      rcases field with ⟨msgidbuf, begmsg⟩
      rw [hscan] at h
      simp only at h ⊢
      split
      · rfl
      · next halpha =>
          rw [if_neg halpha] at h
          cases hend : strstr closing begmsg with
          | none => rfl
          | some endmsg =>
              rw [hend] at h
              simp only at h ⊢
              unfold messageText
              simp only
              by_cases hentry : (getChunkmapEntry globchunkMap msgidbuf).isEmpty = true
              · rw [if_pos hentry] at h
                rw [h msgidbuf rfl]
              · rw [Bool.not_eq_true] at hentry
                simp only [hentry, Bool.not_false, if_true]

/-- A closure that asks for no translation. -/
def Untranslated (clos : Builtin) : Prop :=
  ∀ srv dgettext tdata reading call,
    clos (translated srv dgettext) tdata reading call = clos srv tdata reading call

/-- Every builtin but `msg`. -/
theorem untranslated_builtins :
    ∀ builtin ∈ builtins, builtin.1 = "msg".toList ∧ builtin.2 = expandMsg ∨
      builtin.1 ≠ "msg".toList ∧ Untranslated builtin.2 := by
  simp only [builtins, List.forall_mem_cons]
  refine ⟨.inr ⟨by decide, ?_⟩, .inr ⟨by decide, ?_⟩, .inr ⟨by decide, ?_⟩, .inr ⟨by decide, ?_⟩,
    .inr ⟨by decide, ?_⟩, .inr ⟨by decide, ?_⟩, .inr ⟨by decide, ?_⟩, .inr ⟨by decide, ?_⟩,
    .inr ⟨by decide, ?_⟩, .inr ⟨by decide, ?_⟩, .inr ⟨by decide, ?_⟩, .inr ⟨by decide, ?_⟩,
    .inr ⟨by decide, ?_⟩, .inr ⟨by decide, ?_⟩, .inr ⟨by decide, ?_⟩, .inr ⟨by decide, ?_⟩,
    .inr ⟨by decide, ?_⟩, .inr ⟨by decide, ?_⟩, .inl ⟨True.intro, True.intro⟩, .inr ⟨by decide, ?_⟩,
    by simp⟩ <;> exact fun _ _ _ _ _ => rfl

/-- One instruction. -/
theorem expandWith_congr {srv : Server} {dgettext : Text → Text} {call : Call}
    (h : ∀ id, callLookup srv call = some id → dgettext id = srv.dgettext id)
    (tdata : TemplateData) (reading : Reading) :
    expandWith builtinDict (translated srv dgettext) tdata reading call =
      expandWith builtinDict srv tdata reading call := by
  unfold expandWith
  rw [dispatch_eq_calledName]
  unfold callLookup at h
  rcases hname : calledName call.procinstr with e | _ | name
  · rfl
  · rfl
  · rw [hname] at h
    simp only [Except.map, Option.bind_some]
    cases hclos : builtinDict[name]? with
    | none => rfl
    | some clos =>
        simp only
        rcases untranslated_builtins _ (mem_builtins_of_getElem? hclos) with
          ⟨hmsg, hexpand⟩ | ⟨-, huntranslated⟩
        · have hmsg : name = "msg".toList := hmsg
          have hexpand : clos = expandMsg := hexpand
          simp only [hmsg, if_true] at h
          rw [hexpand]
          exact congrArg (Except.mapError PageFailure.view) (viewExpandMsg_congr h tdata.request)
        · exact huntranslated srv dgettext tdata reading call

/-- **Translations.** Two servers that differ in translations expand a page alike
when they agree on the identifiers the page asks for. -/
theorem expandPage_congr {srv : Server} {dgettext : Text → Text} {tdata : TemplateData}
    {env : Nat → Reading} {fs : Text → Option SourceFile} {srcfilepath : Text}
    (h : ∀ id ∈ pageLookups srv tdata env fs srcfilepath, dgettext id = srv.dgettext id) :
    expandPage (translated srv dgettext) tdata env fs srcfilepath =
      expandPage srv tdata env fs srcfilepath := by
  unfold expandPage
  rw [expandTemplateFileWith_eq_perform, expandTemplateFileWith_eq_perform]
  unfold pageLookups at h
  generalize ([] : Text) = outs
  generalize fileSteps fs srcfilepath = steps at h
  -- up to the first step that fails
  induction steps generalizing outs with
  | nil => rfl
  | cons step rest ih =>
      cases step with
      | copy s => exact ih _ h
      | throw failure => rfl
      | call position call =>
          rw [stepLookups] at h
          have hcall : expandWith builtinDict (translated srv dgettext) tdata (env position) call =
              expandWith builtinDict srv tdata (env position) call :=
            expandWith_congr (fun id hid => h id (List.mem_append_left _ (by simp [hid]))) tdata _
          simp only [perform, hcall]
          cases hexpand : expandWith builtinDict srv tdata (env position) call with
          | error e => rfl
          | ok s =>
              rw [hexpand] at h
              exact ih _ fun id hid => h id (List.mem_append_right _ hid)

end HelpCovid.Views
