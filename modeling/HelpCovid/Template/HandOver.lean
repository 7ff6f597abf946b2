import HelpCovid.Template.Builtins

/-!
# What the scanners hand over

Both scanners hand text of a line to `hcv_expand_processing_instruction`. A stray
`?>` before a markup can make that text empty, or end the scan with
`std::length_error`; otherwise it is one whole markup. So the places where the code
gives up on a corrupted instruction are never reached.
-/

namespace HelpCovid.Template

open CText ChunkMap Web Views

/-! ## The scanners by their steps -/

section PerformOn

variable {φ : Type*} (ofScan : Failure → φ) (expand : Nat → Call → Except φ Text) (sink : Sink)

/-- The steps taken one after the other, with the stream that a scanner copies to. -/
def performOn : List Step → Streams → Except φ Streams
  | [], st => .ok st
  | .copy s :: rest, st => performOn rest (st.put sink s)
  | .call position call :: rest, st =>
    match expand position call with
    | .error e => .error e
    | .ok s => performOn rest (st.expand s)
  | .throw failure :: _, _ => .error (ofScan failure)

variable {ofScan expand sink}

theorem performOn_append (a b : List Step) (st : Streams) :
    performOn ofScan expand sink (a ++ b) st =
      (performOn ofScan expand sink a st).bind (performOn ofScan expand sink b) := by
  induction a generalizing st with
  | nil => rfl
  | cons step a ih =>
    cases step with
    | copy s => exact ih _
    | throw failure => rfl
    | call position call =>
      simp only [List.cons_append, performOn]
      cases expand position call with
      | error e => rfl
      | ok s => exact ih _

/-- A failure is one of the scan or comes from a call. -/
theorem error_of_performOn {steps : List Step} {st : Streams} {e : φ}
    (h : performOn ofScan expand sink steps st = .error e) :
    (∃ failure, Step.throw failure ∈ steps ∧ ofScan failure = e) ∨
      ∃ position call, Step.call position call ∈ steps ∧ expand position call = .error e := by
  induction steps generalizing st with
  | nil => cases h
  | cons step steps ih =>
    have hlater : ∀ st', performOn ofScan expand sink steps st' = .error e →
        (∃ failure, Step.throw failure ∈ step :: steps ∧ ofScan failure = e) ∨
          ∃ position call, Step.call position call ∈ step :: steps ∧
            expand position call = .error e := by
      intro st' h'
      rcases ih h' with ⟨failure, hmem, heq⟩ | ⟨position, call, hmem, heq⟩
      · exact Or.inl ⟨failure, List.mem_cons_of_mem _ hmem, heq⟩
      · exact Or.inr ⟨position, call, List.mem_cons_of_mem _ hmem, heq⟩
    cases step with
    | copy s => exact hlater _ h
    | throw failure => exact Or.inl ⟨failure, List.mem_cons_self, Except.error.inj h⟩
    | call position call =>
      rw [performOn] at h
      cases hcall : expand position call with
      | error e' =>
        rw [hcall] at h
        obtain rfl := Except.error.inj h
        exact Or.inr ⟨position, call, List.mem_cons_self, hcall⟩
      | ok s =>
        rw [hcall] at h
        exact hlater _ h

end PerformOn

section Total

variable {ε : Type*} (dict : ExpanderDict ε) (env : Nat → ε) (sink : Sink)

theorem scanLoop_eq_performOn (filename : Text) (lineno off fuel col : Nat) (cur : Text)
    (st : Streams) :
    scanLoop dict env sink filename lineno off fuel col cur st =
      performOn id (dictExpand dict env) sink (loopSteps filename lineno off fuel col cur) st := by
  induction fuel generalizing col cur st with
  | zero => rfl
  | succ fuel ih =>
    unfold scanLoop loopSteps
    cases strstr opening cur with
    | none => rfl
    | some startpi =>
      cases strstr closing (cur.drop opening.length) with
      | none => rfl
      | some endpi =>
        simp only
        split
        · rfl
        · simp only [performOn, dictExpand]
          cases expandProcessingInstruction dict (env (off + col + startpi))
              ⟨_, filename, lineno, off⟩ with
          | error e => rfl
          | ok s => exact ih _ _ _

theorem scanLine_eq_performOn (filename : Text) (lineno off : Nat) (linbuf : Text) (st : Streams) :
    scanLine dict env sink filename lineno off linbuf st =
      performOn id (dictExpand dict env) sink (lineSteps filename lineno off linbuf) st := by
  rw [lineSteps, performOn_append, ← scanLoop_eq_performOn]
  unfold scanLine
  dsimp only
  cases scanLoop dict env sink filename lineno off ((cstr linbuf).length + 1) 0 (cstr linbuf) st with
  | error e => rfl
  | ok st' => rfl

end Total

/-! ## Well formed instructions -/

/-- It starts with `<?hcv ` and ends with its only `?>`. -/
structure IsInstruction (procinstr : Text) : Prop where
  start : opening <+: procinstr
  stop : closing <:+ procinstr
  only : ∀ front back, procinstr = front ++ closing ++ back → back = []

theorem isInstruction_of_isMarkup {procinstr : Text} (h : IsMarkup procinstr) :
    IsInstruction procinstr := by
  rcases h.shape with ⟨body, hshape, hbody⟩
  refine ⟨⟨body ++ closing, ?_⟩, ⟨opening ++ body, hshape.symm⟩, ?_⟩
  · rw [hshape, List.append_assoc]
  · intro front back hsplit
    have hfound : strstr closing procinstr = some (body.length + opening.length) := by
      have hopen := strstr_closing_opening 0 (by decide) (body ++ closing)
      rw [hshape, List.append_assoc]
      simpa [hbody] using hopen
    rw [hsplit, List.append_assoc] at hfound
    have hle := strstr_le_of_append hfound
    have hlens := congrArg List.length (hsplit.symm.trans hshape)
    simp only [List.length_append] at hlens
    exact List.length_eq_zero_iff.mp (by omega)

/-- A call with the empty text or a markup; no failure of the scan is about a
corrupted instruction. -/
def Step.Safe : Step → Prop
  | .copy _ => True
  | .call _ c => c.procinstr = [] ∨ IsMarkup c.procinstr
  | .throw failure => ∀ procinstr, failure ≠ .fatal (.corruptedInstruction procinstr)

/-- What a turn of the loop hands over: the `?>` that is found is a stray one right
before the markup, or the end of the markup. -/
theorem handOver_turn {cur : Text} {startpi endpi : Nat} (hnul : '\x00' ∉ cur)
    (hstart : strstr opening cur = some startpi)
    (hend : strstr closing (cur.drop opening.length) = some endpi)
    (hnext : ¬ opening.length + endpi + closing.length < startpi) :
    (cur.drop startpi).take (opening.length + endpi + closing.length - startpi) = [] ∨
      IsMarkup ((cur.drop startpi).take (opening.length + endpi + closing.length - startpi)) := by
  have hsearch := strstr_closing_search hstart
  rw [hend] at hsearch
  cases hstray : strstr closing ((cur.take startpi).drop opening.length) with
  | some i =>
    -- it ends where the markup starts
    rw [hstray] at hsearch
    obtain rfl : endpi = i := Option.some.inj hsearch
    have hin := strstr_le_length hstray closing_ne_nil
    rw [List.length_drop, length_take_of_strstr hstart opening_ne_nil] at hin
    have hpos : 0 < closing.length := List.length_pos_iff.mpr closing_ne_nil
    have hsize : opening.length + endpi + closing.length - startpi = 0 := by omega
    left
    rw [hsize, List.take_zero]
  | none =>
    rw [hstray] at hsearch
    rcases Option.map_eq_some_iff.mp hsearch.symm with ⟨len, hclose, hlen⟩
    have hsize : opening.length + len + closing.length =
        opening.length + endpi + closing.length - startpi := by omega
    right
    rw [markup_eq hstart hclose hsize]
    refine ⟨⟨_, rfl, strstr_take_append hclose closing_ne_nil⟩, ?_⟩
    rw [← markup_eq hstart hclose hsize]
    exact fun hmem => hnul (List.mem_of_mem_drop (List.mem_of_mem_take hmem))

theorem loopSteps_safe (filename : Text) (lineno off fuel col : Nat) {cur : Text}
    (hnul : '\x00' ∉ cur) : ∀ step ∈ loopSteps filename lineno off fuel col cur, step.Safe := by
  induction fuel generalizing col cur with
  | zero =>
    intro step hstep
    obtain rfl := List.mem_singleton.mp hstep
    exact fun _ => Failure.noConfusion
  | succ fuel ih =>
    intro step hstep
    unfold loopSteps at hstep
    split at hstep
    · obtain rfl := List.mem_singleton.mp hstep
      exact True.intro
    · next startpi hstart =>
      split at hstep
      · obtain rfl := List.mem_singleton.mp hstep
        exact True.intro
      · next endpi hend =>
        simp only at hstep
        split at hstep
        · obtain rfl := List.mem_singleton.mp hstep
          exact fun _ => Failure.noConfusion
        · next hnext =>
          rcases List.mem_cons.mp hstep with rfl | hstep
          · exact True.intro
          · rcases List.mem_cons.mp hstep with rfl | hstep
            · exact handOver_turn hnul hstart hend hnext
            · exact ih _ (fun hmem => hnul (List.mem_of_mem_drop hmem)) step hstep

theorem lineSteps_safe (filename : Text) (lineno off : Nat) (linbuf : Text) :
    ∀ step ∈ lineSteps filename lineno off linbuf, step.Safe := by
  intro step hstep
  have hnul : '\x00' ∉ cstr linbuf := by
    intro hmem
    exact absurd (List.mem_takeWhile_imp hmem) (by decide)
  rcases List.mem_append.mp hstep with hloop | hnewline
  · exact loopSteps_safe filename lineno off _ _ hnul step hloop
  · obtain rfl := List.mem_singleton.mp hnewline
    exact True.intro

/-! ## The places where the code gives up -/

/-- What is handed over is never taken for a corrupted instruction. -/
theorem dispatch_ne_error {γ : Type*} (dict : StdMap Text γ) {procinstr : Text}
    (h : procinstr = [] ∨ IsMarkup procinstr) (e : Failure) : dispatch dict procinstr ≠ .error e := by
  intro herror
  rcases h with rfl | hmarkup
  · have hscan : scanInstruction (cstr []) = none := by decide
    rw [dispatch, hscan] at herror
    cases herror
  · rw [dispatch_markup dict hmarkup] at herror
    cases herror

theorem dictExpand_ne_error {ε : Type*} (dict : ExpanderDict ε) (env : Nat → ε) (position : Nat)
    {call : Call} (h : call.procinstr = [] ∨ IsMarkup call.procinstr) (e : Failure) :
    dictExpand dict env position call ≠ .error e := by
  rw [dictExpand, expandProcessingInstruction_eq_dispatch]
  cases hdispatch : dispatch dict.entries call.procinstr with
  | error e' => exact absurd hdispatch (dispatch_ne_error _ h e')
  | ok found =>
    intro h
    cases h

/-- The scan for an identifier goes past no `?`. -/
theorem scanMsgid_spec {keyword procinstr msgidbuf rest : Text} (hkeyword : '?' ∉ keyword)
    (h : scanMsgid keyword procinstr = some (msgidbuf, rest)) :
    ∃ consumed, procinstr = ['<', '?', 'h', 'c', 'v'] ++ (consumed ++ rest) ∧ '?' ∉ consumed := by
  rcases fields_of_scanMsgid h with ⟨s, t, tail, hs, hword, hfields, hrest⟩
  rcases exists_gap s with ⟨gap₁, hgap₁, hmark₁⟩
  rcases exists_gap t with ⟨gap₂, hgap₂, hmark₂⟩
  rcases exists_gap tail with ⟨gap₃, hgap₃, hmark₃⟩
  rcases scanSet_spec hfields with ⟨hfield, -, hset⟩
  have hmsgidbuf : '?' ∉ msgidbuf := fun hmem => absurd (hset _ hmem) (by decide)
  refine ⟨gap₁ ++ (keyword ++ (gap₂ ++ (msgidbuf ++ gap₃))), ?_, ?_⟩
  · rw [hs, hgap₁, hword, hgap₂, hfield, hgap₃, hrest]
    simp only [List.append_assoc]
  · simp only [List.mem_append, not_or]
    exact ⟨hmark₁, hkeyword, hmark₂, hmsgidbuf, hmark₃⟩

/-- The assertion of `hcv_view_expand_msg` holds: the end of the markup is found. -/
theorem viewExpandMsg_ne_noEnd (globchunkMap : StdMap Text Text) (dgettext : Text → Text)
    (req : Request) {procinstr : Text} (h : procinstr = [] ∨ IsMarkup procinstr) (p : Text) :
    viewExpandMsg globchunkMap dgettext req procinstr ≠ .error (.noEndOfMessage p) := by
  intro herror
  unfold viewExpandMsg at herror
  rcases h with rfl | hmarkup
  · have hscan : scanMsgid "msg".toList (cstr []) = none := by decide
    rw [hscan] at herror
    cases herror
  · rw [cstr_of_notMem hmarkup.noNul] at herror
    rcases hmarkup.shape with ⟨body, hshape, hbody⟩
    cases hscan : scanMsgid "msg".toList procinstr with
    | none =>
      rw [hscan] at herror
      cases herror
    | some field =>
      rcases field with ⟨msgidbuf, begmsg⟩
      rcases scanMsgid_spec (by decide) hscan with ⟨consumed, hsplit, hmark⟩
      rcases rest_of_markup hbody hmark (hshape.symm.trans hsplit) with ⟨endmsg, hend, -⟩
      simp only [hscan, hend] at herror
      split at herror
      · cases herror
      · cases herror

/-! ## Both scanners -/

/-- The scan ends, and not on a corrupted instruction. -/
def NoGiveUp {α : Type*} (r : Except Failure α) : Prop :=
  ∀ e, r = .error e → e ≠ .outOfFuel ∧ ∀ procinstr, e ≠ .fatal (.corruptedInstruction procinstr)

theorem noGiveUp_ok {α : Type*} (a : α) : NoGiveUp (.ok a) := by
  intro e herror
  cases herror

/-- The other errors of the code are none of these. -/
theorem noGiveUp_fatal {α : Type*} {fatal : Fatal}
    (hne : ∀ procinstr, fatal ≠ .corruptedInstruction procinstr) :
    NoGiveUp (.error (.fatal fatal) : Except Failure α) := by
  intro e herror
  obtain rfl := Except.error.inj herror
  exact ⟨Failure.noConfusion, fun procinstr h => hne procinstr (Failure.fatal.inj h)⟩

/-- A failure that is passed on. -/
theorem NoGiveUp.passOn {α β : Type*} {e : Failure} (h : NoGiveUp (.error e : Except Failure α)) :
    NoGiveUp (.error e : Except Failure β) := by
  intro e' herror
  exact h e' (congrArg Except.error (Except.error.inj herror))

section Scanners

variable {ε : Type*} (dict : ExpanderDict ε) (env : Nat → ε)

/-- The scan of a line, with what a call of `hcv_view_expand_msg` would need. -/
structure HandsOverWell (globchunkMap : StdMap Text Text) (dgettext : Text → Text) (req : Request)
    (sink : Sink) (filename : Text) (lineno off : Nat) (linbuf : Text) (st : Streams) : Prop where
  /-- the calls that are made are among these -/
  performed : scanLine dict env sink filename lineno off linbuf st =
    performOn id (dictExpand dict env) sink (lineSteps filename lineno off linbuf) st
  calls : ∀ position call, Step.call position call ∈ lineSteps filename lineno off linbuf →
    call.procinstr = [] ∨ IsInstruction call.procinstr
  notCorrupted : NoGiveUp (scanLine dict env sink filename lineno off linbuf st)
  endFound : ∀ position call, Step.call position call ∈ lineSteps filename lineno off linbuf →
    ∀ procinstr, viewExpandMsg globchunkMap dgettext req call.procinstr ≠
      .error (.noEndOfMessage procinstr)

/-- A turn of the loop ends it or moves `curpc` forward in the line. -/
def TurnAdvances (sink : Sink) (filename : Text) (lineno off col : Nat) (cur : Text)
    (st : Streams) : Prop :=
  (∃ r, ∀ fuel, scanLoop dict env sink filename lineno off (fuel + 1) col cur st = r) ∨
    ∃ col' st', col < col' ∧ col' ≤ col + cur.length ∧
      ∀ fuel, scanLoop dict env sink filename lineno off (fuel + 1) col cur st =
        scanLoop dict env sink filename lineno off fuel col' (cur.drop (col' - col)) st'

theorem scanLine_noGiveUp (sink : Sink) (filename : Text) (lineno off : Nat) (linbuf : Text)
    (st : Streams) : NoGiveUp (scanLine dict env sink filename lineno off linbuf st) := by
  intro e herror
  rw [scanLine_eq_performOn] at herror
  rcases error_of_performOn herror with ⟨failure, hmem, rfl⟩ | ⟨position, call, hmem, hcall⟩
  · refine ⟨?_, lineSteps_safe filename lineno off linbuf _ hmem⟩
    rcases List.mem_append.mp hmem with hloop | hnewline
    · exact loopSteps_sound filename lineno off 0 (Nat.lt_succ_self _) _ hloop
    · exact absurd (List.mem_singleton.mp hnewline) Step.noConfusion
  · have hsafe := lineSteps_safe filename lineno off linbuf _ hmem
    exact absurd hcall (dictExpand_ne_error dict env position hsafe e)

theorem turnAdvances (sink : Sink) (filename : Text) (lineno off col : Nat) (cur : Text)
    (st : Streams) : TurnAdvances dict env sink filename lineno off col cur st := by
  unfold TurnAdvances
  simp only [scanLoop]
  cases hstart : strstr opening cur with
  | none => exact Or.inl ⟨_, fun _ => rfl⟩
  | some startpi =>
    cases hend : strstr closing (cur.drop opening.length) with
    | none => exact Or.inl ⟨_, fun _ => rfl⟩
    | some endpi =>
      simp only
      by_cases hnext : opening.length + endpi + closing.length < startpi
      · left
        exact ⟨.error .lengthError, fun _ => if_pos hnext⟩
      · simp only [if_neg hnext]
        cases expandProcessingInstruction dict (env (off + col + startpi)) ⟨(cur.drop startpi).take
            (opening.length + endpi + closing.length - startpi), filename, lineno, off⟩ with
        | error e => exact Or.inl ⟨_, fun _ => rfl⟩
        | ok s =>
          right
          have hpos : 0 < opening.length := List.length_pos_iff.mpr opening_ne_nil
          have hin := strstr_le_length hend closing_ne_nil
          have hopen := strstr_le_length hstart opening_ne_nil
          rw [List.length_drop] at hin
          refine ⟨col + (opening.length + endpi + closing.length),
            (st.put sink (cur.take startpi)).expand s, by omega, by omega, fun fuel => ?_⟩
          rw [Nat.add_sub_cancel_left]

theorem expandFileLines_noGiveUp (path : Text) (lineno off : Nat) (ls : List Text) (st : Streams) :
    NoGiveUp (expandFileLines dict env path lineno off ls st) := by
  induction ls generalizing lineno off st with
  | nil => exact noGiveUp_ok _
  | cons linbuf rest ih =>
    unfold expandFileLines
    by_cases hempty : linbuf.isEmpty = true
    · rw [if_pos hempty]
      exact ih _ _ _
    · rw [if_neg hempty]
      by_cases hverbatim : verbatimLine lineno linbuf = true
      · rw [if_pos hverbatim]
        exact ih _ _ _
      · rw [if_neg hverbatim]
        have hline := scanLine_noGiveUp dict env .data path lineno off linbuf st
        cases hscan : scanLine dict env .data path lineno off linbuf st with
        | error e => exact NoGiveUp.passOn (hscan ▸ hline)
        | ok st' => exact ih _ _ _

theorem expandStreamLines_noGiveUp (inpname : Text) (lineno off : Nat) (ls : List Text)
    (st : Streams) : NoGiveUp (expandStreamLines dict env inpname lineno off ls st) := by
  induction ls generalizing lineno off st with
  | nil => exact noGiveUp_ok _
  | cons linbuf rest ih =>
    unfold expandStreamLines
    by_cases hbig : off > maxTemplateSize
    · rw [if_pos hbig]
      exact noGiveUp_fatal fun _ => Fatal.noConfusion
    · rw [if_neg hbig]
      have hline := scanLine_noGiveUp dict env .own inpname lineno off linbuf st
      cases hscan : scanLine dict env .own inpname lineno off linbuf st with
      | error e => exact NoGiveUp.passOn (hscan ▸ hline)
      | ok st' => exact ih _ _ _

theorem expandTemplateFile_noGiveUp (fs : Text → Option SourceFile) (srcfilepath outs : Text) :
    NoGiveUp (expandTemplateFile dict env fs srcfilepath outs) := by
  unfold expandTemplateFile
  split
  · exact noGiveUp_fatal fun _ => Fatal.noConfusion
  · cases fs srcfilepath with
    | none => exact noGiveUp_fatal fun _ => Fatal.noConfusion
    | some src =>
      dsimp only
      split
      · exact noGiveUp_fatal fun _ => Fatal.noConfusion
      · split
        · exact noGiveUp_fatal fun _ => Fatal.noConfusion
        · have hlines := expandFileLines_noGiveUp dict env srcfilepath 1 0 (lines src.contents)
            ⟨outs, []⟩
          cases hscan : expandFileLines dict env srcfilepath 1 0 (lines src.contents)
              ⟨outs, []⟩ with
          | error e => exact NoGiveUp.passOn (hscan ▸ hlines)
          | ok st => exact noGiveUp_ok _

theorem expandTemplateInputStream_noGiveUp (srcinp : Text) (inpname : Option Text) (outs : Text) :
    NoGiveUp (expandTemplateInputStream dict env srcinp inpname outs) := by
  unfold expandTemplateInputStream
  dsimp only
  have hlines := expandStreamLines_noGiveUp dict env (inpname.getD "??*null*??".toList) 1 0
    (lines srcinp) ⟨outs, []⟩
  cases hscan : expandStreamLines dict env (inpname.getD "??*null*??".toList) 1 0 (lines srcinp)
      ⟨outs, []⟩ with
  | error e => exact NoGiveUp.passOn (hscan ▸ hlines)
  | ok st => exact noGiveUp_ok _

/-- **Well formed instructions.** Each call that a scanner makes on a line gets the
empty text or one whole markup; so neither scanner ends on a corrupted instruction,
`hcv_view_expand_msg` finds the end of the markup, and the loops end, as each turn
moves forward. -/
theorem scanners_handOver (globchunkMap : StdMap Text Text) (dgettext : Text → Text)
    (req : Request) :
    (∀ sink filename lineno off linbuf st,
      HandsOverWell dict env globchunkMap dgettext req sink filename lineno off linbuf st) ∧
    (∀ sink filename lineno off col cur st,
      TurnAdvances dict env sink filename lineno off col cur st) ∧
    (∀ fs srcfilepath outs, NoGiveUp (expandTemplateFile dict env fs srcfilepath outs)) ∧
    ∀ srcinp inpname outs, NoGiveUp (expandTemplateInputStream dict env srcinp inpname outs) := by
  refine ⟨fun sink filename lineno off linbuf st => ?_, turnAdvances dict env,
    expandTemplateFile_noGiveUp dict env, expandTemplateInputStream_noGiveUp dict env⟩
  refine ⟨scanLine_eq_performOn dict env sink filename lineno off linbuf st, ?_,
    scanLine_noGiveUp dict env sink filename lineno off linbuf st, ?_⟩
  · intro position call hmem
    exact (lineSteps_safe filename lineno off linbuf _ hmem).imp_right isInstruction_of_isMarkup
  · intro position call hmem procinstr
    exact viewExpandMsg_ne_noEnd globchunkMap dgettext req
      (lineSteps_safe filename lineno off linbuf _ hmem) procinstr

end Scanners

end HelpCovid.Template
