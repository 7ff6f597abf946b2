import HelpCovid.Lib.Machine
import HelpCovid.Template.Expansion

/-!
# Which closure a markup runs

`hcv_expand_processing_instruction` looks up the name it has scanned and calls
the closure it finds. `dispatch` is that choice alone, for a dictionary of
closures of any kind. The dictionary is the result of the registrations and
removals made so far; `live` reads off such a history which registrations of a
name are still in force.
-/

namespace HelpCovid.Template

open CText

/-- The closure `hcv_expand_processing_instruction` calls for `procinstr`;
`none` where it only logs. -/
def dispatch {γ : Type*} (dict : StdMap Text γ) (procinstr : Text) : Except Failure (Option γ) :=
  match scanInstruction (cstr procinstr) with
  | none => .ok none
  | some (namebuf, rest) =>
      match strstr closing rest with
      | none => .error (.fatal (.corruptedInstruction procinstr))
      | some endpi =>
          if rest.length ≠ endpi + closing.length then
            .error (.fatal (.corruptedInstruction procinstr))
          else .ok dict[namebuf]?

theorem expandProcessingInstruction_eq_dispatch {ε : Type*} (dict : ExpanderDict ε) (reading : ε)
    (call : Call) :
    expandProcessingInstruction dict reading call =
      (dispatch dict.entries call.procinstr).map fun found =>
        (found.map fun clos => clos reading call).getD [] := by
  unfold expandProcessingInstruction dispatch
  cases scanInstruction (cstr call.procinstr) with
  | none => rfl
  | some field =>
      rcases field with ⟨namebuf, rest⟩
      cases hend : strstr closing rest with
      | none => simp only [hend, Except.map]
      | some endpi =>
          simp only [hend]
          by_cases hlen : rest.length = endpi + closing.length
          · rw [if_neg (not_not.mpr hlen), if_neg (not_not.mpr hlen)]
            show _ = Except.ok _
            unfold ExpanderDict.find
            cases dict.entries[namebuf]? <;> rfl
          · rw [if_pos hlen, if_pos hlen]
            rfl

/-- A closure that is called is one of the dictionary. -/
theorem getElem?_of_dispatch {γ : Type*} {dict : StdMap Text γ} {procinstr : Text} {clos : γ}
    (h : dispatch dict procinstr = .ok (some clos)) : ∃ name : Text, dict[name]? = some clos := by
  unfold dispatch at h
  split at h
  · exact absurd h (by simp)
  · next namebuf rest hscan =>
      split at h
      · exact absurd h (by simp)
      · split at h
        · exact absurd h (by simp)
        · exact ⟨namebuf, Except.ok.inj h⟩

/-- A markup: `<?hcv ` up to the first `?>` after it. -/
structure IsMarkup (procinstr : Text) : Prop where
  shape : ∃ body, procinstr = opening ++ body ++ closing ∧
    strstr closing (body ++ closing) = some body.length
  noNul : '\x00' ∉ procinstr

/-- The lookup is of the first 64 characters of the name. -/
theorem dispatch_markup {γ : Type*} (dict : StdMap Text γ) {procinstr : Text}
    (h : IsMarkup procinstr) :
    dispatch dict procinstr =
      .ok (if markupName procinstr = [] then none
        else dict[(markupName procinstr).take templateNameMaxlen]?) := by
  rcases h.shape with ⟨body, hshape, hbody⟩
  have hopen : procinstr = opening ++ (body ++ closing) := by rw [hshape, List.append_assoc]
  have hscan := scanInstruction_opening (body ++ closing)
  rw [← hopen] at hscan
  unfold dispatch
  rw [cstr_of_notMem h.noNul, hscan]
  by_cases hname : markupName procinstr = []
  · rw [if_pos hname, if_pos hname]
  · rw [if_neg hname] at hscan
    rw [if_neg hname, if_neg hname]
    rcases scanInstruction_spec hscan with ⟨consumed, hsplit, hmark⟩
    generalize hrest : blanks ((blanks (' ' :: (body ++ closing))).drop
      ((markupName procinstr).take templateNameMaxlen).length) = rest at hsplit ⊢
    rcases rest_of_markup hbody hmark (hshape.symm.trans hsplit) with ⟨endpi, hend, hlen⟩
    simp only [hend]
    rw [if_neg (by simpa using hlen)]

/-! ## Processing instructions with a name -/

/-- `<?hcv NAME...?>` -/
def instruction (name arg : Text) : Text := opening ++ name ++ arg ++ closing

/-- `name` is the whole name, and the `?>` at the end is the only one. -/
structure IsClosedInstruction (name arg : Text) : Prop where
  name_ne_nil : name ≠ []
  name_chars : ∀ c ∈ name, isNameChar c = true
  maximal : ∀ c ∈ arg.head?, isNameChar c = false
  noNul : '\x00' ∉ arg
  closed : strstr closing (arg ++ closing) = some arg.length

theorem notMem_of_isNameChar {s : Text} (hs : ∀ c ∈ s, isNameChar c = true) {x : Char}
    (hx : isNameChar x = false) : x ∉ s := by
  intro hmem
  rw [hs x hmem] at hx
  exact Bool.noConfusion hx

/-- The end of a markup does not go on with a name. -/
theorem not_isNameChar_of_head?_closing : ∀ c ∈ closing.head?, ¬ isNameChar c := by
  intro c hc
  obtain rfl : '?' = c := Option.some.inj hc
  decide

theorem not_isSpace_of_isNameChar {c : Char} (h : isNameChar c = true) : isSpace c = false := by
  by_contra hspace
  simp only [isSpace, Bool.not_eq_false, Bool.or_eq_true, beq_iff_eq] at hspace
  rcases hspace with ((((rfl | rfl) | rfl) | rfl) | rfl) | rfl <;> exact absurd h (by decide)

/-- No blank is skipped before a name. -/
theorem blanks_name {name : Text} (hne : name ≠ []) (hname : ∀ c ∈ name, isNameChar c = true)
    (s : Text) : blanks (' ' :: (name ++ s)) = name ++ s := by
  cases name with
  | nil => exact absurd rfl hne
  | cons c cs =>
      have hc := not_isSpace_of_isNameChar (hname c (by simp))
      have hblank : isSpace ' ' = true := by decide
      simp [blanks, hblank, hc]

theorem isMarkup_instruction {name arg : Text} (h : IsClosedInstruction name arg) :
    IsMarkup (instruction name arg) where
  shape := by
    refine ⟨name ++ arg, by simp [instruction], ?_⟩
    have hmark : '?' ∉ name := notMem_of_isNameChar h.name_chars (by decide)
    rw [List.append_assoc, strstr_append_of_notMem _ (x := '?') rfl hmark, h.closed,
      Option.map_some, List.length_append, Nat.add_comm]
  noNul := by
    have hnul : '\x00' ∉ name := notMem_of_isNameChar h.name_chars (by decide)
    simp [instruction, opening, closing, hnul, h.noNul]

theorem markupName_instruction {name arg : Text} (h : IsClosedInstruction name arg) :
    markupName (instruction name arg) = name := by
  have hdrop : (instruction name arg).drop 5 = ' ' :: (name ++ (arg ++ closing)) := by
    simp [instruction, opening]
  have hstop : (arg ++ closing).takeWhile isNameChar = [] := by
    cases arg with
    | nil => rfl
    | cons c cs =>
        have hc := h.maximal c (by simp)
        simp [hc]
  rw [markupName, hdrop, blanks_name h.name_ne_nil h.name_chars,
    List.takeWhile_append_of_pos h.name_chars, hstop, List.append_nil]

/-! ## Histories of the dictionary -/

section History

variable {ε : Type*}

/-- A call that changes the dictionary. -/
inductive Update (ε : Type*) where
  | register (name : Text) (expfun : Expander ε)
  | forget (name : Text)

/-- One call; a registration may abort the process. -/
def ExpanderDict.update (dict : ExpanderDict ε) : Update ε → Except Failure (ExpanderDict ε)
  | .register name expfun => dict.register name expfun
  | .forget name => .ok (dict.forget name)

/-- The registrations of `name` in force after one more call, the oldest first. -/
def liveAfter (name : Text) (found : List (Expander ε)) : Update ε → List (Expander ε)
  | .register m expfun => if m = name then found ++ [expfun] else found
  | .forget m => if m = name then [] else found

/-- The registrations of `name` that no removal of `name` follows, the oldest
first. -/
def live (name : Text) (us : List (Update ε)) : List (Expander ε) := us.foldl (liveAfter name) []

theorem ExpanderDict.find_register {dict dict' : ExpanderDict ε} {name : Text}
    {expfun : Expander ε} (h : dict.register name expfun = .ok dict') (m : Text) :
    dict'.find m = if name = m then some ((dict.find m).getD expfun) else dict.find m := by
  unfold ExpanderDict.register at h
  split at h
  · exact absurd h (by simp)
  · obtain rfl := Except.ok.inj h
    show (dict.entries.insertIfNew name expfun)[m]? = _
    by_cases hm : name = m
    · subst hm
      rw [if_pos rfl, StdMap.getElem?_insertIfNew_self]
      rfl
    · rw [if_neg hm, StdMap.getElem?_insertIfNew_of_ne _ _ (Ne.symm hm)]
      rfl

theorem ExpanderDict.find_forget (dict : ExpanderDict ε) (name m : Text) :
    (dict.forget name).find m = if name = m then none else dict.find m := by
  show (dict.entries.erase name)[m]? = _
  by_cases hm : name = m
  · subst hm
    rw [if_pos rfl]
    exact Std.ExtTreeMap.getElem?_erase_self
  · rw [if_neg hm, StdMap.getElem?_erase_of_ne _ (Ne.symm hm)]
    rfl

/-- The dictionary holds the oldest registration in force: a step. -/
theorem ExpanderDict.find_update {dict dict' : ExpanderDict ε} {u : Update ε}
    (h : dict.update u = .ok dict') {m : Text} {found : List (Expander ε)}
    (hfound : dict.find m = found.head?) : dict'.find m = (liveAfter m found u).head? := by
  cases u with
  | register name expfun =>
      rw [ExpanderDict.find_register h, hfound]
      by_cases hm : name = m
      · rw [if_pos hm, liveAfter, if_pos hm, List.head?_append, List.head?_singleton]
        cases found.head? <;> rfl
      · rw [if_neg hm, liveAfter, if_neg hm]
  | forget name =>
      obtain rfl := Except.ok.inj h
      rw [ExpanderDict.find_forget, hfound]
      by_cases hm : name = m
      · rw [if_pos hm, liveAfter, if_pos hm, List.head?_nil]
      · rw [if_neg hm, liveAfter, if_neg hm]

/-- The dictionary holds the oldest registration in force: a run. -/
theorem ExpanderDict.find_updates {us : List (Update ε)} {dict dict' : ExpanderDict ε}
    (h : us.foldlM ExpanderDict.update dict = .ok dict') {m : Text} {found : List (Expander ε)}
    (hfound : dict.find m = found.head?) :
    dict'.find m = (us.foldl (liveAfter m) found).head? := by
  induction us generalizing dict found with
  | nil =>
      obtain rfl := Except.ok.inj h
      exact hfound
  | cons u us ih =>
      rcases Machine.ok_of_foldlM_cons h with ⟨dict₁, hstep, hrest⟩
      exact ih hrest (ExpanderDict.find_update hstep hfound)

theorem ExpanderDict.find_of_updates {us : List (Update ε)} {dict : ExpanderDict ε}
    (h : us.foldlM ExpanderDict.update ExpanderDict.empty = .ok dict) (m : Text) :
    dict.find m = (live m us).head? := by
  apply ExpanderDict.find_updates h
  show (∅ : StdMap Text (Expander ε))[m]? = _
  simp

/-- A name that is too long was never registered. -/
theorem live_eq_nil_of_length {us : List (Update ε)} {dict : ExpanderDict ε}
    (h : us.foldlM ExpanderDict.update ExpanderDict.empty = .ok dict) {m : Text}
    (hm : templateNameMaxlen < m.length) : live m us = [] := by
  have hnone := dict.find_eq_none_of_length hm
  rw [ExpanderDict.find_of_updates h] at hnone
  exact List.head?_eq_none_iff.mp hnone

/-- The history decides the dispatch of `name` as its latest registration: the
oldest registration in force is that one, and a name that is too long does not
start with 64 characters that are a name in force. -/
def LatestDecides (us : List (Update ε)) (name : Text) : Prop :=
  if name.length ≤ templateNameMaxlen then (live name us).head? = (live name us).getLast?
  else live (name.take templateNameMaxlen) us = []

/-- What a closed processing instruction calls: the oldest registration in force
of the first 64 characters of its name. -/
theorem dispatch_instruction {us : List (Update ε)} {dict : ExpanderDict ε}
    (h : us.foldlM ExpanderDict.update ExpanderDict.empty = .ok dict) {name arg : Text}
    (hname : IsClosedInstruction name arg) :
    dispatch dict.entries (instruction name arg) =
      .ok (live (name.take templateNameMaxlen) us).head? := by
  have hdispatch := dispatch_markup dict.entries (isMarkup_instruction hname)
  rw [markupName_instruction hname, if_neg hname.name_ne_nil] at hdispatch
  rw [hdispatch]
  exact congrArg Except.ok (ExpanderDict.find_of_updates h _)

/-- **Dispatch.** A closed processing instruction calls the closure of the latest
registration in force of its name, and none when there is none, if and only if
the history decides so. -/
theorem dispatch_eq_latest_iff {us : List (Update ε)} {dict : ExpanderDict ε}
    (h : us.foldlM ExpanderDict.update ExpanderDict.empty = .ok dict) {name arg : Text}
    (hname : IsClosedInstruction name arg) :
    dispatch dict.entries (instruction name arg) = .ok (live name us).getLast? ↔
      LatestDecides us name := by
  rw [dispatch_instruction h hname, Except.ok.injEq]
  unfold LatestDecides
  by_cases hlen : name.length ≤ templateNameMaxlen
  · rw [if_pos hlen, List.take_of_length_le hlen]
  · rw [if_neg hlen, live_eq_nil_of_length h (Nat.lt_of_not_le hlen), List.getLast?_nil,
      List.head?_eq_none_iff]

end History

/-! ## A name registered twice, and a name that is cut -/

/-- `hcv_initialize_templates` registers `gitid` a second time, for the last
git commit. -/
def gitidTwice : List (Update Unit) :=
  [.register "gitid".toList fun _ _ => "gitid".toList,
    .register "gitid".toList fun _ _ => "lastgitcommit".toList]

/-- A name of the greatest length. -/
def longName : Text := List.replicate templateNameMaxlen 'a'

def longNameOnce : List (Update Unit) := [.register longName fun _ _ => "long".toList]

theorem gitidTwice_ok : ∃ dict, gitidTwice.foldlM ExpanderDict.update ExpanderDict.empty = .ok dict :=
  ⟨_, rfl⟩

theorem longNameOnce_ok :
    ∃ dict, longNameOnce.foldlM ExpanderDict.update ExpanderDict.empty = .ok dict :=
  ⟨_, rfl⟩

theorem isClosedInstruction_nil {name : Text} (hne : name ≠ [])
    (hname : ∀ c ∈ name, isNameChar c = true) : IsClosedInstruction name [] where
  name_ne_nil := hne
  name_chars := hname
  maximal := by simp
  noNul := by simp
  closed := rfl

theorem dispatch_eq_latest_iff_pid :
    ∃ dict, [Update.register "pid".toList fun (_ : Unit) _ => "42".toList].foldlM
        ExpanderDict.update ExpanderDict.empty = .ok dict ∧
      (dispatch dict.entries (instruction "pid".toList []) =
          .ok (live "pid".toList [.register "pid".toList fun _ _ => "42".toList]).getLast? ↔
        LatestDecides [Update.register "pid".toList fun (_ : Unit) _ => "42".toList]
          "pid".toList) :=
  ⟨_, rfl, dispatch_eq_latest_iff rfl
    (isClosedInstruction_nil (by decide) (List.all_eq_true.mp (by decide)))⟩

/-- The second registration of `gitid` is without effect, and a name of 65
characters runs the closure of its first 64. -/
theorem dispatch_not_latest :
    (∃ dict, gitidTwice.foldlM ExpanderDict.update ExpanderDict.empty = .ok dict ∧
      IsClosedInstruction "gitid".toList [] ∧
      dispatch dict.entries (instruction "gitid".toList []) ≠
        .ok (live "gitid".toList gitidTwice).getLast?) ∧
    ∃ dict, longNameOnce.foldlM ExpanderDict.update ExpanderDict.empty = .ok dict ∧
      IsClosedInstruction ('a' :: longName) [] ∧
      dispatch dict.entries (instruction ('a' :: longName) []) ≠
        .ok (live ('a' :: longName) longNameOnce).getLast? := by
  constructor
  · rcases gitidTwice_ok with ⟨dict, hdict⟩
    have hclosed : IsClosedInstruction "gitid".toList [] := isClosedInstruction_nil (by decide)
      (List.all_eq_true.mp (by decide))
    refine ⟨dict, hdict, hclosed, ?_⟩
    rw [Ne, dispatch_instruction hdict hclosed, Except.ok.injEq]
    intro h
    -- the two closures write different texts
    have hwrites := congrArg (Option.map fun clos => clos () ⟨[], [], 0, 0⟩) h
    exact absurd hwrites (by decide)
  · rcases longNameOnce_ok with ⟨dict, hdict⟩
    have hclosed : IsClosedInstruction ('a' :: longName) [] := isClosedInstruction_nil (by decide)
      (List.all_eq_true.mp (by decide))
    refine ⟨dict, hdict, hclosed, ?_⟩
    rw [Ne, dispatch_instruction hdict hclosed, Except.ok.injEq]
    intro h
    have hwrites := congrArg Option.isSome h
    exact absurd hwrites (by decide)

end HelpCovid.Template
