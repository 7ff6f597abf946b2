import HelpCovid.ChunkMap.Names
import HelpCovid.Views.Message

/-!
# Which messages can be customized

The parser of chunk map files, the scanner of markups and `hcv_view_expand_msg`
each have their own limit on a name: 60, 64 and 38 characters. A longer name is
cut by the last one; the rest of the name is then part of the default text.
-/

namespace HelpCovid.Views

open CText ChunkMap Template Web

/-- `<?hcv msg N D?>` -/
def msgMarkup (name deflt : Text) : Text :=
  opening ++ ("msg ".toList ++ (name ++ ' ' :: (deflt ++ closing)))

/-- A name of letters, digits and underscores. -/
structure IsName (name : Text) : Prop where
  ne_nil : name ≠ []
  chars : ∀ c ∈ name, isNameChar c = true

/-- A default text without `?>`, whose first character is not a blank. -/
structure IsDefault (deflt : Text) : Prop where
  first : ∀ c ∈ deflt.head?, isSpace c = false
  open_ : strstr closing deflt = none
  noNul : '\x00' ∉ deflt

theorem isDefault_nil : IsDefault [] := ⟨by simp, rfl, by simp⟩

theorem isDefault_x : IsDefault ['x'] := ⟨by simp [isSpace], rfl, by simp⟩

/-- The `?>` after a text without one is the first. -/
theorem strstr_append_closing {s : Text} (h : strstr closing s = none) :
    strstr closing (s ++ closing) = some s.length := by
  have hstart : strstr closing closing = some 0 := strstr_of_start (List.prefix_refl _)
  rw [strstr_append_of_forall, hstart, Option.map_some, Nat.zero_add]
  intro i hi hp
  by_cases hend : i + closing.length ≤ s.length
  · -- inside the text it would have been found
    rw [List.drop_append_of_le_length (Nat.le_of_lt hi)] at hp
    refine not_start_drop_of_strstr_none h i closing_ne_nil ?_
    refine List.prefix_of_prefix_length_le hp (List.prefix_append _ _) ?_
    rw [List.length_drop]
    omega
  · -- and the last character of the text is not followed by `>`
    have hlast : i + 1 = s.length := by
      simp only [closing, List.length_cons, List.length_nil] at hend
      omega
    rcases hp with ⟨ys, hys⟩
    have hsecond := congrArg (fun l => l[1]?) hys
    simp only [closing, List.cons_append, List.nil_append, List.getElem?_drop,
      List.getElem?_cons_succ, List.getElem?_cons_zero] at hsecond
    rw [hlast, List.getElem?_append_right (Nat.le_refl _), Nat.sub_self] at hsecond
    simp at hsecond

/-- What remains for the default text: a name that is cut leaves its rest. -/
def rawMessage (name deflt : Text) : Text :=
  if name.length ≤ msgidWidth then deflt else name.drop msgidWidth ++ ' ' :: deflt

/-- The identifier is cut after 38 characters. -/
theorem scanMsgid_msgMarkup {name deflt : Text} (hname : IsName name) (hdeflt : IsDefault deflt) :
    scanMsgid "msg".toList (msgMarkup name deflt) =
      some (name.take msgidWidth, rawMessage name deflt ++ closing) := by
  have hlit : literal ['<', '?', 'h', 'c', 'v'] (msgMarkup name deflt) =
      some (' ' :: ("msg ".toList ++ (name ++ ' ' :: (deflt ++ closing)))) :=
    literal_append ['<', '?', 'h', 'c', 'v'] _
  have hkeyword : literal "msg".toList
      (blanks (' ' :: ("msg ".toList ++ (name ++ ' ' :: (deflt ++ closing))))) =
        some (' ' :: (name ++ ' ' :: (deflt ++ closing))) := rfl
  have hblanks : blanks (' ' :: (name ++ ' ' :: (deflt ++ closing))) =
      name ++ ' ' :: (deflt ++ closing) := blanks_name hname.ne_nil hname.chars _
  have hcut : name ++ ' ' :: (deflt ++ closing) =
      name.take msgidWidth ++ (name.drop msgidWidth ++ ' ' :: (deflt ++ closing)) := by
    rw [← List.append_assoc, List.take_append_drop]
  have hscan : scanSet msgidWidth isNameChar (name ++ ' ' :: (deflt ++ closing)) =
      some (name.take msgidWidth, name.drop msgidWidth ++ ' ' :: (deflt ++ closing)) := by
    rw [hcut]
    apply scanSet_append
    · intro hnil
      rcases List.take_eq_nil_iff.mp hnil with hzero | hnil
      · exact absurd hzero (by decide)
      · exact hname.ne_nil hnil
    · exact fun c hc => hname.chars c (List.mem_of_mem_take hc)
    · exact List.length_take_le _ _
    · rcases Nat.le_total msgidWidth name.length with hlong | hshort
      · exact Or.inl (List.length_take_of_le hlong)
      · right
        rw [List.drop_eq_nil_of_le hshort]
        intro c hc
        obtain rfl : ' ' = c := by simpa using hc
        decide
  have hrest : blanks (name.drop msgidWidth ++ ' ' :: (deflt ++ closing)) =
      rawMessage name deflt ++ closing := by
    unfold rawMessage
    by_cases hshort : name.length ≤ msgidWidth
    · -- the blank before the default text is skipped, and no other
      have hspace : isSpace ' ' = true := by decide
      have hmark : isSpace '?' = false := by decide
      rw [if_pos hshort, List.drop_eq_nil_of_le hshort, List.nil_append]
      cases deflt with
      | nil => simp [blanks, closing, hspace, hmark]
      | cons c cs =>
          have hc := hdeflt.first c (by simp)
          simp [blanks, hspace, hc]
    · rw [if_neg hshort, List.append_assoc, List.cons_append]
      have hne : name.drop msgidWidth ≠ [] := by
        rw [Ne, List.drop_eq_nil_iff]
        exact hshort
      rcases List.exists_cons_of_ne_nil hne with ⟨c, cs, hcons⟩
      have hc : isSpace c = false := by
        apply not_isSpace_of_isNameChar
        apply hname.chars c
        apply List.mem_of_mem_drop (i := msgidWidth)
        rw [hcons]
        exact List.mem_cons_self ..
      simp [hcons, blanks, hc]
  simp only [scanMsgid, hlit, Option.bind_eq_bind, Option.bind_some, hkeyword, hblanks, hscan,
    hrest]
  rfl

theorem strstr_rawMessage {name deflt : Text} (hname : IsName name) (hdeflt : IsDefault deflt) :
    strstr closing (rawMessage name deflt ++ closing) = some (rawMessage name deflt).length := by
  have hend := strstr_append_closing hdeflt.open_
  unfold rawMessage
  by_cases hshort : name.length ≤ msgidWidth
  · rw [if_pos hshort]
    exact hend
  · have hrest : '?' ∉ name.drop msgidWidth ++ [' '] := by
      rw [List.mem_append, not_or]
      refine ⟨fun hmem => ?_, by decide⟩
      exact notMem_of_isNameChar hname.chars (by decide) (List.mem_of_mem_drop hmem)
    have hsplit : name.drop msgidWidth ++ ' ' :: deflt =
        (name.drop msgidWidth ++ [' ']) ++ deflt := by simp
    rw [if_neg hshort, hsplit, List.append_assoc,
      strstr_append_of_notMem (deflt ++ closing) (x := '?') rfl hrest, hend, Option.map_some,
      @List.length_append _ _ deflt, Nat.add_comm]

section Reach

variable (globchunkMap : StdMap Text Text) (dgettext : Text → Text) (req : Request)

/-- The message stored under an identifier: a chunk, a translation, or a chunk
for the language of the request. -/
def storedMessage (msgidbuf : Text) : Option Text :=
  let chunkent := getChunkmapEntry globchunkMap msgidbuf
  if !chunkent.isEmpty then some chunkent
  else if dgettext msgidbuf != msgidbuf then some (dgettext msgidbuf)
  else
    let entry := getChunkmapEntry globchunkMap (langChunkName msgidbuf (requestLanguage req))
    if !entry.isEmpty then some entry else none

theorem messageText_eq (msgidbuf rawmsg : Text) :
    messageText globchunkMap dgettext (requestLanguage req) msgidbuf rawmsg =
      (storedMessage globchunkMap dgettext req msgidbuf).getD rawmsg := by
  unfold messageText storedMessage
  simp only
  split
  · rfl
  · split
    · rfl
    · split <;> rfl

theorem startsAlpha_take {name : Text} : startsAlpha (name.take msgidWidth) = startsAlpha name := by
  cases name <;> rfl

/-- What `hcv_view_expand_msg` does with `<?hcv msg N D?>`. -/
theorem viewExpandMsg_msgMarkup {name deflt : Text} (hname : IsName name)
    (hdeflt : IsDefault deflt) :
    viewExpandMsg globchunkMap dgettext req (msgMarkup name deflt) =
      if startsAlpha name then
        .ok ((storedMessage globchunkMap dgettext req (name.take msgidWidth)).getD
          (rawMessage name deflt))
      else .error (.invalidMsgid (msgMarkup name deflt) (name.take msgidWidth)) := by
  have hnul : '\x00' ∉ msgMarkup name deflt := by
    have hnameNul : '\x00' ∉ name := notMem_of_isNameChar hname.chars (by decide)
    simp [msgMarkup, opening, closing, hnameNul, hdeflt.noNul]
  unfold viewExpandMsg
  rw [cstr_of_notMem hnul, scanMsgid_msgMarkup hname hdeflt]
  simp only [startsAlpha_take]
  by_cases halpha : startsAlpha name = true
  · rw [if_pos halpha, halpha]
    simp only [strstr_rawMessage hname hdeflt, Bool.not_true, Bool.false_eq_true, if_false,
      List.take_left', messageText_eq]
  · rw [if_neg halpha, Bool.eq_false_iff.mpr halpha]
    rfl

/-- Neither a chunk nor a translation, for the name or for its variant in the
language of the request. -/
structure NoMessage (name : Text) : Prop where
  chunk : name ∉ globchunkMap
  langChunk : langChunkName name (requestLanguage req) ∉ globchunkMap
  translation : dgettext name = name
  langTranslation : dgettext (langChunkName name (requestLanguage req)) =
    langChunkName name (requestLanguage req)

/-- What `<?hcv msg N D?>` should give, for every default text: the body of the
chunk, and the default text where there is no message. -/
def MessageExpands (name : Text) : Prop :=
  ∀ deflt, IsDefault deflt →
    (∀ body, body ≠ [] → globchunkMap[name]? = some body →
      viewExpandMsg globchunkMap dgettext req (msgMarkup name deflt) = .ok body) ∧
    (NoMessage globchunkMap dgettext req name →
      viewExpandMsg globchunkMap dgettext req (msgMarkup name deflt) = .ok deflt)

/-- A name that the expander does not cut, or that is cut to one with the same
message; and, where there is no message, one that starts with a letter. -/
def MessageInReach (name : Text) : Prop :=
  (∀ body, body ≠ [] → globchunkMap[name]? = some body →
    name.length ≤ msgidWidth ∨
      storedMessage globchunkMap dgettext req (name.take msgidWidth) = some body) ∧
  (NoMessage globchunkMap dgettext req name →
    name.length ≤ msgidWidth ∧ startsAlpha name = true)

variable {globchunkMap dgettext req}

theorem storedMessage_of_chunk {name body : Text} (hname : name ≠ []) (hbody : body ≠ [])
    (h : globchunkMap[name]? = some body) :
    storedMessage globchunkMap dgettext req name = some body := by
  have hentry : getChunkmapEntry globchunkMap name = body := by
    simp [getChunkmapEntry, hname, h]
  simp [storedMessage, hentry, hbody]

theorem storedMessage_of_noMessage {name : Text} (h : NoMessage globchunkMap dgettext req name) :
    storedMessage globchunkMap dgettext req name = none := by
  have hmissing : ∀ chunk : Text, chunk ∉ globchunkMap →
      getChunkmapEntry globchunkMap chunk = [] := by
    intro chunk hchunk
    simp [getChunkmapEntry, Std.ExtTreeMap.getElem?_eq_none hchunk]
  simp [storedMessage, hmissing _ h.chunk, hmissing _ h.langChunk, h.translation]

/-- A text that two default texts both give is a stored one. -/
theorem storedMessage_of_forall {name text : Text}
    (h : ∀ deflt, IsDefault deflt →
      (storedMessage globchunkMap dgettext req (name.take msgidWidth)).getD
        (rawMessage name deflt) = text) :
    storedMessage globchunkMap dgettext req (name.take msgidWidth) = some text := by
  have hnil := h [] isDefault_nil
  have hx := h ['x'] isDefault_x
  cases hstored : storedMessage globchunkMap dgettext req (name.take msgidWidth) with
  | some text' =>
      rw [hstored] at hnil
      exact congrArg some hnil
  | none =>
      rw [hstored] at hnil hx
      have hsame : rawMessage name [] = rawMessage name ['x'] := hnil.trans hx.symm
      have hlen := congrArg List.length hsame
      unfold rawMessage at hlen
      split at hlen
      · exact absurd hlen (by simp)
      · exact absurd hlen (by simp)

variable (globchunkMap dgettext req) in
/-- Default texts that all come out as they are have a short name before them. -/
theorem length_le_of_forall {name : Text}
    (h : ∀ deflt, IsDefault deflt →
      (storedMessage globchunkMap dgettext req (name.take msgidWidth)).getD
        (rawMessage name deflt) = deflt) : name.length ≤ msgidWidth := by
  by_contra hlong
  have hnil := h [] isDefault_nil
  have hx := h ['x'] isDefault_x
  cases hstored : storedMessage globchunkMap dgettext req (name.take msgidWidth) with
  | some text =>
      rw [hstored] at hnil hx
      have hsame : ([] : Text) = ['x'] := hnil.symm.trans hx
      exact absurd hsame (by simp)
  | none =>
      -- the rest of the name leaks into the page
      rw [hstored, Option.getD_none, rawMessage, if_neg hlong] at hnil
      exact absurd hnil (by simp)

/-- A message that is expanded to a text. -/
theorem getD_of_viewExpandMsg {name deflt text : Text} (hname : IsName name)
    (hdeflt : IsDefault deflt)
    (h : viewExpandMsg globchunkMap dgettext req (msgMarkup name deflt) = .ok text) :
    startsAlpha name = true ∧
      (storedMessage globchunkMap dgettext req (name.take msgidWidth)).getD
        (rawMessage name deflt) = text := by
  rw [viewExpandMsg_msgMarkup globchunkMap dgettext req hname hdeflt] at h
  split at h
  · next halpha => exact ⟨halpha, Except.ok.inj h⟩
  · cases h

/-- The name of a chunk starts with a letter. -/
theorem startsAlpha_of_chunk {fs : Text → Option Text} {paths : List Text}
    (hglob : paths.foldlM (addChunkmapFile fs) ∅ = .ok globchunkMap) {name body : Text}
    (h : globchunkMap[name]? = some body) : startsAlpha name = true := by
  apply IsChunkName.startsAlpha
  apply isChunkName_of_addChunkmapFiles hglob
  rw [Std.ExtTreeMap.mem_iff_isSome_getElem?, h]
  rfl

/-- **Customized messages.** With the chunks of any files the parser accepts, a
message expands as it should exactly when its name is in reach of the
expander. -/
theorem messageExpands_iff {fs : Text → Option Text} {paths : List Text}
    (hglob : paths.foldlM (addChunkmapFile fs) ∅ = .ok globchunkMap) {name : Text}
    (hname : IsName name) :
    MessageExpands globchunkMap dgettext req name ↔
      MessageInReach globchunkMap dgettext req name := by
  constructor
  · intro h
    constructor
    · intro body hbody hchunk
      right
      apply storedMessage_of_forall
      intro deflt hdeflt
      exact (getD_of_viewExpandMsg hname hdeflt ((h deflt hdeflt).1 body hbody hchunk)).2
    · intro hno
      refine ⟨length_le_of_forall globchunkMap dgettext req ?_, ?_⟩
      · intro deflt hdeflt
        exact (getD_of_viewExpandMsg hname hdeflt ((h deflt hdeflt).2 hno)).2
      · exact (getD_of_viewExpandMsg hname isDefault_nil ((h [] isDefault_nil).2 hno)).1
  · rintro ⟨hchunks, hdefaults⟩ deflt hdeflt
    constructor
    · intro body hbody hchunk
      have halpha := startsAlpha_of_chunk hglob hchunk
      have hstored : storedMessage globchunkMap dgettext req (name.take msgidWidth) = some body := by
        rcases hchunks body hbody hchunk with hshort | hstored
        · rw [List.take_of_length_le hshort]
          exact storedMessage_of_chunk hname.ne_nil hbody hchunk
        · exact hstored
      rw [viewExpandMsg_msgMarkup globchunkMap dgettext req hname hdeflt, if_pos halpha, hstored,
        Option.getD_some]
    · intro hno
      rcases hdefaults hno with ⟨hshort, halpha⟩
      rw [viewExpandMsg_msgMarkup globchunkMap dgettext req hname hdeflt, if_pos halpha,
        List.take_of_length_le hshort, storedMessage_of_noMessage hno, Option.getD_none,
        rawMessage, if_pos hshort]

end Reach

/-! ## A name of 39 characters -/

/-- One character more than the expander reads. -/
def longMsgid : Text := List.replicate 39 'm'

/-- A customization file with a chunk of that name, and one with a short name. -/
def longMsgidFiles : Text → Option Text
  | ['/', 'a'] => some ('!' :: longMsgid ++ "'hello\n!WELCOME'hi\n".toList)
  | _ => none

/-- The global map with these chunks. -/
def longMsgidMap : StdMap Text Text :=
  (["/a".toList].foldlM (addChunkmapFile longMsgidFiles) ∅).toOption.getD ∅

/-- A request without a language. -/
def plainRequest : Request := ⟨"GET".toList, "/".toList, []⟩

theorem isName_of_all {name : Text} (hne : name ≠ []) (h : name.all isNameChar = true) :
    IsName name :=
  ⟨hne, List.all_eq_true.mp h⟩

theorem messageExpands_iff_welcome :
    MessageExpands longMsgidMap id plainRequest "WELCOME".toList ↔
      MessageInReach longMsgidMap id plainRequest "WELCOME".toList := by
  have hload : ["/a".toList].foldlM (addChunkmapFile longMsgidFiles) ∅ = .ok longMsgidMap := rfl
  exact messageExpands_iff hload (isName_of_all (by decide) (by decide))

/-- The chunk of 39 characters is not found and the last character of its name
is written to the page; a name that starts with a digit aborts the server. -/
theorem message_out_of_reach :
    (["/a".toList].foldlM (addChunkmapFile longMsgidFiles) ∅ = .ok longMsgidMap ∧
      IsName longMsgid ∧ longMsgidMap[longMsgid]? = some "hello".toList ∧
      viewExpandMsg longMsgidMap id plainRequest (msgMarkup longMsgid "bye".toList) =
        .ok "m bye".toList ∧
      ¬ MessageExpands longMsgidMap id plainRequest longMsgid) ∧
    IsName "1st".toList ∧ NoMessage longMsgidMap id plainRequest "1st".toList ∧
      viewExpandMsg longMsgidMap id plainRequest (msgMarkup "1st".toList "one".toList) =
        .error (.invalidMsgid (msgMarkup "1st".toList "one".toList) "1st".toList) := by
  have hchunk : longMsgidMap[longMsgid]? = some "hello".toList := by decide +kernel
  have habsent : "1st".toList ∉ longMsgidMap := by
    rw [Std.ExtTreeMap.mem_iff_isSome_getElem?]
    decide +kernel
  refine ⟨⟨rfl, isName_of_all (by decide) (by decide), hchunk, by decide +kernel, ?_⟩,
    isName_of_all (by decide) (by decide), ⟨habsent, habsent, rfl, rfl⟩, by decide +kernel⟩
  intro h
  have hexpand := (h [] isDefault_nil).1 _ (by decide) hchunk
  exact absurd hexpand (by decide +kernel)

end HelpCovid.Views
