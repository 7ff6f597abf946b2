import HelpCovid.Views.Lookups

/-!
# The identifiers of a template

Which identifiers the expansion of a page can ask for is seen in the template
alone: those of the messages that the scanner reaches before a markup that ends
the expansion on every server (`exists_mem_pageLookups_iff`).
-/

namespace HelpCovid.Views

open CText ChunkMap Template Web

/-- The identifier of a message. -/
def messageId (procinstr : Text) : Option Text :=
  match calledName procinstr with
  | .ok (some name) => if name = "msg".toList then messageLookup ∅ procinstr else none
  | _ => none

/-- A message that `hcv_view_expand_msg` does not give up on. -/
def msgPasses (procinstr : Text) : Bool :=
  (scanMsgid "msg".toList (cstr procinstr)).all fun field =>
    startsAlpha field.1 && (strstr closing field.2).isSome

/-- A `confmsg` that is well formed is not implemented. -/
def confmsgPasses (procinstr : Text) : Bool :=
  (scanMsgid "confmsg".toList (cstr procinstr)).isNone

/-- The instruction does not end the expansion on every server. -/
def passes (procinstr : Text) : Bool :=
  match calledName procinstr with
  | .error _ => false
  | .ok none => true
  | .ok (some name) =>
      if name = "msg".toList then msgPasses procinstr
      else if name = "confmsg".toList then confmsgPasses procinstr
      else true

/-- The identifiers of the messages among the steps of a scan, up to the first step
that ends the expansion on every server. -/
def messageIds : List Step → List Text
  | [] => []
  | .copy _ :: rest => messageIds rest
  | .call _ call :: rest =>
      (messageId call.procinstr).toList ++
        if passes call.procinstr then messageIds rest else []
  | .throw _ :: _ => []

/-- A server without customized messages or translations. -/
def plainServer : Server where
  gitid := "0123456789abcdef".toList
  lastgitcommit := []
  timestamp := []
  hostname := []
  webroot := []
  pid := 1
  globchunkMap := ∅
  dgettext := id

/-- A request for the main page. -/
def plainData : TemplateData := ⟨⟨"GET".toList, "/".toList, []⟩, 1⟩

def plainReading : Reading := ⟨[], [], 0⟩

theorem exists_viewExpandMsg_iff {globchunkMap : StdMap Text Text} {dgettext : Text → Text}
    {req : Request} {procinstr : Text} :
    (∃ s, viewExpandMsg globchunkMap dgettext req procinstr = .ok s) ↔
      msgPasses procinstr = true := by
  unfold viewExpandMsg msgPasses
  cases scanMsgid "msg".toList (cstr procinstr) with
  | none => simp
  | some field =>
      rcases field with ⟨msgidbuf, begmsg⟩
      cases halpha : startsAlpha msgidbuf with
      | false => simp [halpha]
      | true => cases hend : strstr closing begmsg <;> simp [halpha, hend]

theorem exists_viewExpandConfmsg_iff {procinstr : Text} :
    (∃ s, viewExpandConfmsg procinstr = .ok s) ↔ confmsgPasses procinstr = true := by
  unfold viewExpandConfmsg confmsgPasses
  cases scanMsgid "confmsg".toList (cstr procinstr) with
  | none => simp
  | some field =>
      rcases field with ⟨msgidbuf, begmsg⟩
      cases halpha : startsAlpha msgidbuf with
      | false => simp [halpha]
      | true => cases hend : strstr closing begmsg <;> simp [halpha, hend]

theorem exists_mapError_iff {ε ε' α : Type*} (f : ε → ε') (x : Except ε α) :
    (∃ a, x.mapError f = .ok a) ↔ ∃ a, x = .ok a := by
  cases x with
  | error e => exact ⟨fun ⟨_, h⟩ => (nomatch h), fun ⟨_, h⟩ => (nomatch h)⟩
  | ok a => exact ⟨fun _ => ⟨a, rfl⟩, fun _ => ⟨a, rfl⟩⟩

theorem builtinDict_msg : builtinDict["msg".toList]? = some expandMsg := rfl

theorem builtinDict_confmsg : builtinDict["confmsg".toList]? = some expandConfmsg := rfl

/-- `msg`, `confmsg`, and the builtins that do not fail on the plain server. -/
theorem plain_builtins :
    ∀ builtin ∈ builtins, builtin.1 = "msg".toList ∨ builtin.1 = "confmsg".toList ∨
      ∀ reading call, ∃ s, builtin.2 plainServer plainData reading call = .ok s := by
  simp only [builtins, List.forall_mem_cons]
  refine ⟨.inr (.inr ?_), .inr (.inr ?_), .inr (.inr ?_), .inr (.inr ?_), .inr (.inr ?_),
    .inr (.inr ?_), .inr (.inr ?_), .inr (.inr ?_), .inr (.inr ?_), .inr (.inr ?_),
    .inr (.inr ?_), .inr (.inr ?_), .inr (.inr ?_), .inr (.inr ?_), .inr (.inr ?_),
    .inr (.inr ?_), .inr (.inr ?_), .inr (.inr ?_), .inl True.intro, .inr (.inl True.intro), by simp⟩
  case refine_17 =>
    intro reading call
    unfold expandBasefilepos
    dsimp only
    split
    · exact ⟨_, rfl⟩
    · split <;> exact ⟨_, rfl⟩
  all_goals exact fun _ _ => ⟨_, rfl⟩

/-- What is expanded passes. -/
theorem passes_of_expandWith {srv : Server} {tdata : TemplateData} {reading : Reading} {call : Call}
    {s : Text} (h : expandWith builtinDict srv tdata reading call = .ok s) :
    passes call.procinstr = true := by
  unfold expandWith at h
  rw [dispatch_eq_calledName] at h
  unfold passes
  rcases hname : calledName call.procinstr with e | _ | name
  · rw [hname] at h
    cases h
  · rfl
  · rw [hname] at h
    simp only [Except.map, Option.bind_some] at h ⊢
    split
    · next hmsg =>
        rw [hmsg, builtinDict_msg] at h
        exact exists_viewExpandMsg_iff.mp ((exists_mapError_iff _ _).mp ⟨s, h⟩)
    · split
      · next hconfmsg =>
          rw [hconfmsg, builtinDict_confmsg] at h
          exact exists_viewExpandConfmsg_iff.mp ((exists_mapError_iff _ _).mp ⟨s, h⟩)
      · rfl

/-- The plain server expands what passes. -/
theorem expandWith_plain {call : Call} (h : passes call.procinstr = true) (reading : Reading) :
    ∃ s, expandWith builtinDict plainServer plainData reading call = .ok s := by
  unfold passes at h
  unfold expandWith
  rw [dispatch_eq_calledName]
  rcases hname : calledName call.procinstr with e | _ | name
  · rw [hname] at h
    cases h
  · exact ⟨[], rfl⟩
  · rw [hname] at h
    simp only [Except.map, Option.bind_some] at h ⊢
    split at h
    · next hmsg =>
        rw [hmsg, builtinDict_msg]
        exact (exists_mapError_iff _ _).mpr (exists_viewExpandMsg_iff.mpr h)
    · next hmsg =>
        split at h
        · next hconfmsg =>
            rw [hconfmsg, builtinDict_confmsg]
            exact (exists_mapError_iff _ _).mpr (exists_viewExpandConfmsg_iff.mpr h)
        · next hconfmsg =>
            cases hclos : builtinDict[name]? with
            | none => exact ⟨[], rfl⟩
            | some clos =>
                rcases plain_builtins _ (mem_builtins_of_getElem? hclos) with heq | heq | hplain
                · exact absurd heq hmsg
                · exact absurd heq hconfmsg
                · exact hplain reading call

/-- A customized message is not looked up; with no customization each one is. -/
theorem messageLookup_empty_of_eq_some {globchunkMap : StdMap Text Text} {procinstr id : Text}
    (h : messageLookup globchunkMap procinstr = some id) : messageLookup ∅ procinstr = some id := by
  unfold messageLookup at h ⊢
  cases hscan : scanMsgid "msg".toList (cstr procinstr) with
  | none =>
      rw [hscan] at h
      cases h
  | some field =>
      rcases field with ⟨msgidbuf, begmsg⟩
      rw [hscan] at h
      simp only at h ⊢
      split at h
      · cases h
      · next halpha =>
          rw [if_neg halpha]
          cases hend : strstr closing begmsg with
          | none =>
              rw [hend] at h
              cases h
          | some endmsg =>
              rw [hend] at h
              simp only at h ⊢
              split at h
              · rw [if_pos (by simp [getChunkmapEntry]), h]
              · cases h

theorem messageId_of_callLookup {srv : Server} {call : Call} {id : Text}
    (h : callLookup srv call = some id) : messageId call.procinstr = some id := by
  unfold callLookup at h
  unfold messageId
  rcases hname : calledName call.procinstr with e | _ | name
  · rw [hname] at h
    cases h
  · rw [hname] at h
    cases h
  · rw [hname] at h
    simp only at h ⊢
    split at h
    · next hmsg => rw [if_pos hmsg, messageLookup_empty_of_eq_some h]
    · cases h

/-- No server looks up more than the identifiers of the messages. -/
theorem mem_messageIds_of_mem_stepLookups {srv : Server} {tdata : TemplateData}
    {env : Nat → Reading} {steps : List Step} {id : Text}
    (h : id ∈ stepLookups srv tdata env steps) : id ∈ messageIds steps := by
  induction steps with
  | nil => cases h
  | cons step rest ih =>
      cases step with
      | copy s => exact ih h
      | throw failure => cases h
      | call position call =>
          rw [stepLookups] at h
          rw [messageIds]
          rcases List.mem_append.mp h with hcall | hrest
          · have hid : callLookup srv call = some id := by simpa using hcall
            exact List.mem_append_left _ (by simp [messageId_of_callLookup hid])
          · cases hexpand : expandWith builtinDict srv tdata (env position) call with
            | error e =>
                rw [hexpand] at hrest
                cases hrest
            | ok s =>
                rw [hexpand] at hrest
                rw [if_pos (passes_of_expandWith hexpand)]
                exact List.mem_append_right _ (ih hrest)

/-- The plain server looks up all of them. -/
theorem stepLookups_plain (steps : List Step) :
    stepLookups plainServer plainData (fun _ => plainReading) steps = messageIds steps := by
  induction steps with
  | nil => rfl
  | cons step rest ih =>
      cases step with
      | copy s => exact ih
      | throw failure => rfl
      | call position call =>
          have hcall : callLookup plainServer call = messageId call.procinstr := rfl
          rw [stepLookups, messageIds, hcall]
          congr 1
          cases hexpand : expandWith builtinDict plainServer plainData plainReading call with
          | error e =>
              rw [if_neg]
              intro hpasses
              rcases expandWith_plain hpasses plainReading with ⟨s, hs⟩
              rw [hs] at hexpand
              cases hexpand
          | ok s => rw [if_pos (passes_of_expandWith hexpand), ih]

/-! ## The text of a message -/

/-- `procinstr` is a message and `id` its identifier, which is cut at 38 characters. -/
def IsMessage (procinstr id : Text) : Prop :=
  ∃ gap gap' rest,
    cstr procinstr = ['<', '?', 'h', 'c', 'v'] ++ (gap ++ ("msg".toList ++ (gap' ++ (id ++ rest)))) ∧
    (∀ c ∈ gap, isSpace c = true) ∧
    gap' ≠ [] ∧ (∀ c ∈ gap', isSpace c = true) ∧
    (∀ c ∈ id, isNameChar c = true) ∧ startsAlpha id = true ∧ id.length ≤ msgidWidth ∧
    (id.length = msgidWidth ∨ ∀ c ∈ rest.head?, ¬ isNameChar c = true) ∧
    -- the `?>` at the end is the only one
    ∃ endpi, strstr closing rest = some endpi ∧ rest.length = endpi + closing.length

theorem blanks_append {gap s : Text} (hgap : ∀ c ∈ gap, isSpace c = true)
    (hs : ∀ c ∈ s.head?, isSpace c = false) : blanks (gap ++ s) = s := by
  rw [blanks, List.dropWhile_append_of_pos hgap]
  cases s with
  | nil => rfl
  | cons c cs =>
      rw [List.dropWhile_cons, hs c rfl]
      rfl

theorem startsAlpha_ne_nil {id : Text} (h : startsAlpha id = true) : id ≠ [] := by
  rintro rfl
  cases h

theorem head?_append_of_ne_nil {id : Text} (h : id ≠ []) (rest : Text) :
    ∀ c ∈ (id ++ rest).head?, c ∈ id := by
  intro c hc
  cases id with
  | nil => exact absurd rfl h
  | cons d ds =>
      obtain rfl : d = c := by simpa using hc
      exact List.mem_cons_self

/-- Blanks before the `?>` may be skipped. -/
theorem isSome_strstr_blanks {s : Text} {endpi : Nat} (h : strstr closing s = some endpi) :
    (strstr closing (blanks s)).isSome = true := by
  have hmark : '?' ∉ s.takeWhile isSpace := by
    intro hmem
    exact absurd (List.mem_takeWhile_imp hmem) (by decide)
  have hsplit : s.takeWhile isSpace ++ blanks s = s := List.takeWhile_append_dropWhile
  rw [← hsplit, strstr_append_of_notMem _ (x := '?') rfl hmark] at h
  rcases Option.map_eq_some_iff.mp h with ⟨endpi', hend, -⟩
  rw [hend]
  rfl

/-- Blanks before `msg` are skipped. -/
theorem blanks_gap_msg {gap : Text} (hgap : ∀ c ∈ gap, isSpace c = true) (t : Text) :
    blanks (gap ++ ("msg".toList ++ t)) = "msg".toList ++ t := by
  apply blanks_append hgap
  intro c hc
  obtain rfl : 'm' = c := Option.some.inj hc
  decide

/-- The name of an instruction that goes on with a blank after `msg`. -/
theorem calledName_of_text {procinstr gap gap' after : Text} {endpi : Nat}
    (htext : cstr procinstr =
      ['<', '?', 'h', 'c', 'v'] ++ (gap ++ ("msg".toList ++ (gap' ++ after))))
    (hgap : ∀ c ∈ gap, isSpace c = true) (hne : gap' ≠ []) (hgap' : ∀ c ∈ gap', isSpace c = true)
    (hafter : ∀ c ∈ after.head?, isSpace c = false) (hend : strstr closing after = some endpi)
    (hlen : after.length = endpi + closing.length) :
    calledName procinstr = .ok (some "msg".toList) := by
  have hname : scanSet templateNameMaxlen isNameChar ("msg".toList ++ (gap' ++ after)) =
      some ("msg".toList, gap' ++ after) := by
    apply scanSet_append
    · decide
    · exact List.all_eq_true.mp (by decide)
    · decide
    · -- the blank ends the name
      right
      intro c hc hname
      have hc' := hgap' c (head?_append_of_ne_nil hne _ c hc)
      rw [not_isSpace_of_isNameChar hname] at hc'
      cases hc'
  unfold calledName scanInstruction
  rw [htext, literal_append]
  simp only [Option.bind_eq_bind, Option.bind_some, blanks_gap_msg hgap, hname,
    blanks_append hgap' hafter]
  simp only [pure, hend]
  rw [if_neg (not_not.mpr hlen)]

/-- The identifier is read to its end, or up to its 38 characters. -/
theorem scanMsgid_of_text {s gap gap' id rest : Text}
    (htext : s = ['<', '?', 'h', 'c', 'v'] ++ (gap ++ ("msg".toList ++ (gap' ++ (id ++ rest)))))
    (hgap : ∀ c ∈ gap, isSpace c = true) (hgap' : ∀ c ∈ gap', isSpace c = true) (hne : id ≠ [])
    (hid : ∀ c ∈ id, isNameChar c = true) (hlen : id.length ≤ msgidWidth)
    (hmax : id.length = msgidWidth ∨ ∀ c ∈ rest.head?, ¬ isNameChar c = true) :
    scanMsgid "msg".toList s = some (id, blanks rest) := by
  have hblanks : blanks (gap' ++ (id ++ rest)) = id ++ rest := by
    apply blanks_append hgap'
    intro c hc
    exact not_isSpace_of_isNameChar (hid c (head?_append_of_ne_nil hne rest c hc))
  have hfield : scanSet msgidWidth isNameChar (id ++ rest) = some (id, rest) :=
    scanSet_append rest hne hid hlen hmax
  unfold scanMsgid
  rw [htext, literal_append]
  simp only [Option.bind_eq_bind, Option.bind_some, blanks_gap_msg hgap, literal_append, hblanks,
    hfield]
  rfl

theorem messageId_of_isMessage {procinstr id : Text} (h : IsMessage procinstr id) :
    messageId procinstr = some id := by
  rcases h with ⟨gap, gap', rest, htext, hgap, hne, hgap', hid, halpha, hlen, hmax, endpi, hend,
    hrest⟩
  have hidne := startsAlpha_ne_nil halpha
  have hmark : '?' ∉ id := notMem_of_isNameChar hid (by decide)
  have hend' : strstr closing (id ++ rest) = some (endpi + id.length) := by
    rw [strstr_append_of_notMem rest (x := '?') rfl hmark, hend]
    rfl
  have hcalled : calledName procinstr = .ok (some "msg".toList) := by
    apply calledName_of_text htext hgap hne hgap' _ hend'
    · rw [List.length_append, hrest]
      omega
    · intro c hc
      exact not_isSpace_of_isNameChar (hid c (head?_append_of_ne_nil hidne rest c hc))
  have hlookup : messageLookup ∅ procinstr = some id := by
    unfold messageLookup
    rw [scanMsgid_of_text htext hgap hgap' hidne hid hlen hmax]
    simp only [halpha, Bool.not_true, Bool.false_eq_true, if_false]
    rcases Option.isSome_iff_exists.mp (isSome_strstr_blanks hend) with ⟨endmsg, hendmsg⟩
    rw [hendmsg]
    simp [getChunkmapEntry]
  rw [messageId, hcalled]
  simp only [if_true, hlookup]

theorem calledName_spec {procinstr name : Text} (h : calledName procinstr = .ok (some name)) :
    ∃ rest endpi, scanInstruction (cstr procinstr) = some (name, rest) ∧
      strstr closing rest = some endpi ∧ rest.length = endpi + closing.length := by
  unfold calledName at h
  split at h
  · cases h
  · next namebuf rest hscan =>
      split at h
      · cases h
      · next endpi hend =>
          split at h
          · cases h
          · next hlen =>
              obtain rfl := Option.some.inj (Except.ok.inj h)
              exact ⟨rest, endpi, hscan, hend, not_not.mp hlen⟩

theorem messageLookup_spec {globchunkMap : StdMap Text Text} {procinstr id : Text}
    (h : messageLookup globchunkMap procinstr = some id) :
    ∃ begmsg, scanMsgid "msg".toList (cstr procinstr) = some (id, begmsg) ∧
      startsAlpha id = true := by
  unfold messageLookup at h
  split at h
  · cases h
  · next msgidbuf begmsg hscan =>
      split at h
      · cases h
      · next halpha =>
          split at h
          · cases h
          · split at h
            · obtain rfl := Option.some.inj h
              exact ⟨begmsg, hscan, by simpa using halpha⟩
            · cases h

theorem takeWhile_append_blanks (s : Text) : s.takeWhile isSpace ++ blanks s = s :=
  List.takeWhile_append_dropWhile

theorem isMessage_of_messageId {procinstr id : Text} (h : messageId procinstr = some id) :
    IsMessage procinstr id := by
  unfold messageId at h
  rcases hcalled : calledName procinstr with e | _ | name
  · rw [hcalled] at h
    cases h
  · rw [hcalled] at h
    cases h
  · rw [hcalled] at h
    simp only at h
    split at h
    · next hmsg =>
        subst hmsg
        rcases messageLookup_spec h with ⟨begmsg, hscan, halpha⟩
        rcases calledName_spec hcalled with ⟨r, endpi, hinstr, hend, hlen⟩
        rcases fields_of_scanMsgid hscan with ⟨t, u, v, htext, hu, hv, -⟩
        rcases fields_of_scanInstruction hinstr with ⟨t', u', htext', hname, rfl⟩
        -- both scans read the same text
        obtain rfl : t = t' := List.append_cancel_left (htext.symm.trans htext')
        rw [hu] at hname
        obtain rfl : u = u' := List.append_cancel_left (scanSet_spec hname).1
        rcases scanSet_spec hv with ⟨hsplit, hidne, hid⟩
        have hstop : ∀ c ∈ u.head?, ¬ isNameChar c = true :=
          (scanSet_maximal hname).resolve_left (by decide)
        have hmark : '?' ∉ id := notMem_of_isNameChar hid (by decide)
        refine ⟨t.takeWhile isSpace, u.takeWhile isSpace, v, ?_, ?_, ?_, ?_, hid, halpha,
          length_le_of_scanSet hv, scanSet_maximal hv, ?_⟩
        · rw [← hsplit, takeWhile_append_blanks, ← hu, takeWhile_append_blanks, htext]
        · exact fun c hc => List.mem_takeWhile_imp hc
        · -- the name would go on
          intro hnil
          have hu' := takeWhile_append_blanks u
          rw [hnil, List.nil_append, hsplit] at hu'
          rcases List.exists_cons_of_ne_nil hidne with ⟨c, cs, rfl⟩
          rw [← hu'] at hstop
          exact hstop c rfl (hid c List.mem_cons_self)
        · exact fun c hc => List.mem_takeWhile_imp hc
        · rw [hsplit, strstr_append_of_notMem v (x := '?') rfl hmark] at hend
          rcases Option.map_eq_some_iff.mp hend with ⟨endmsg, hendmsg, rfl⟩
          refine ⟨endmsg, hendmsg, ?_⟩
          rw [hsplit, List.length_append] at hlen
          omega
    · cases h

theorem messageId_eq_some_iff {procinstr id : Text} :
    messageId procinstr = some id ↔ IsMessage procinstr id :=
  ⟨isMessage_of_messageId, messageId_of_isMessage⟩

/-- A step that does not end the expansion on every server. -/
def StepPasses : Step → Prop
  | .copy _ => True
  | .call _ call => passes call.procinstr = true
  | .throw _ => False

/-- Some server comes to `procinstr`. -/
def Reached (steps : List Step) (procinstr : Text) : Prop :=
  ∃ before position call after, steps = before ++ .call position call :: after ∧
    call.procinstr = procinstr ∧ ∀ step ∈ before, StepPasses step

theorem not_reached_nil (procinstr : Text) : ¬ Reached [] procinstr := by
  rintro ⟨before, position, call, after, h, -, -⟩
  cases before <;> cases h

theorem reached_cons_iff {step : Step} {rest : List Step} {procinstr : Text} :
    Reached (step :: rest) procinstr ↔
      (∃ position call, step = .call position call ∧ call.procinstr = procinstr) ∨
        StepPasses step ∧ Reached rest procinstr := by
  constructor
  · rintro ⟨before, position, call, after, h, hcall, hbefore⟩
    cases before with
    | nil => exact .inl ⟨position, call, (List.cons.inj h).1, hcall⟩
    | cons first before =>
        rcases List.cons.inj h with ⟨rfl, rfl⟩
        exact .inr ⟨hbefore _ List.mem_cons_self, before, position, call, after, rfl, hcall,
          fun s hs => hbefore s (List.mem_cons_of_mem _ hs)⟩
  · rintro (⟨position, call, rfl, hcall⟩ | ⟨hstep, before, position, call, after, rfl, hcall,
      hbefore⟩)
    · exact ⟨[], position, call, rest, rfl, hcall, by simp⟩
    · exact ⟨step :: before, position, call, after, rfl, hcall,
        List.forall_mem_cons.mpr ⟨hstep, hbefore⟩⟩

/-- The identifiers are those of the messages that are reached. -/
theorem mem_messageIds_iff {steps : List Step} {id : Text} :
    id ∈ messageIds steps ↔ ∃ procinstr, Reached steps procinstr ∧ IsMessage procinstr id := by
  induction steps with
  | nil => simp [messageIds, not_reached_nil]
  | cons step rest ih =>
      cases step with
      | copy s => simp [messageIds, reached_cons_iff, StepPasses, ih]
      | throw failure => simp [messageIds, reached_cons_iff, StepPasses]
      | call position call =>
          have hhere : id ∈ (messageId call.procinstr).toList ↔ IsMessage call.procinstr id := by
            rw [Option.mem_toList, messageId_eq_some_iff]
          have hrest : id ∈ (if passes call.procinstr then messageIds rest else []) ↔
              passes call.procinstr = true ∧ id ∈ messageIds rest := by
            split <;> simp [*]
          rw [messageIds, List.mem_append, hhere, hrest, ih]
          simp only [reached_cons_iff, StepPasses, Step.call.injEq]
          constructor
          · rintro (h | ⟨hpasses, procinstr, hreached, h⟩)
            · exact ⟨call.procinstr, .inl ⟨position, call, ⟨rfl, rfl⟩, rfl⟩, h⟩
            · exact ⟨procinstr, .inr ⟨hpasses, hreached⟩, h⟩
          · rintro ⟨procinstr, ⟨_, _, ⟨rfl, rfl⟩, rfl⟩ | ⟨hpasses, hreached⟩, h⟩
            · exact .inl h
            · exact .inr ⟨hpasses, procinstr, hreached, h⟩

/-- The identifiers that the expansion of a page can ask for. -/
theorem exists_mem_pageLookups_iff {fs : Text → Option SourceFile} {srcfilepath id : Text} :
    (∃ srv tdata env, id ∈ pageLookups srv tdata env fs srcfilepath) ↔
      ∃ procinstr, Reached (fileSteps fs srcfilepath) procinstr ∧ IsMessage procinstr id := by
  rw [← mem_messageIds_iff]
  constructor
  · rintro ⟨srv, tdata, env, h⟩
    exact mem_messageIds_of_mem_stepLookups h
  · intro h
    refine ⟨plainServer, plainData, fun _ => plainReading, ?_⟩
    rw [pageLookups, stepLookups_plain]
    exact h

end HelpCovid.Views
