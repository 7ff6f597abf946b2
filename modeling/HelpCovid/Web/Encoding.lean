import HelpCovid.Web.Request

/-!
# Escaped text

`hcv_output_encoded_html` writes a string to a page with five characters replaced
by entities. `hcv_output_cstr_encoded_html` is a second copy of it for C strings.
What is written holds no markup and can be read back.
-/

namespace HelpCovid.Web

open CText

/-! ## The two copies -/

/-- The `switch` of `hcv_output_encoded_html`. -/
def encodedHtmlChar : Char → Text
  | '<' => ['&', 'l', 't', ';']
  | '>' => ['&', 'g', 't', ';']
  | '\'' => ['&', 'a', 'p', 'o', 's', ';']
  | '&' => ['&', 'a', 'm', 'p', ';']
  | '"' => ['&', 'q', 'u', 'o', 't', ';']
  | c => [c]

/-- `hcv_output_encoded_html` -/
def outputEncodedHtml : Text → Text
  | [] => []
  | c :: str => encodedHtmlChar c ++ outputEncodedHtml str

/-- The loop of `hcv_output_cstr_encoded_html`, which ends at the first NUL. -/
def outputCstrLoop : Text → Text
  | [] => []
  | c :: str => if c = '\x00' then [] else encodeChar c ++ outputCstrLoop str

/-! ## Reading back -/

/-- The entities that are written, and their characters. -/
def entities : List (Text × Char) :=
  [(['&', 'l', 't', ';'], '<'), (['&', 'g', 't', ';'], '>'),
    (['&', 'a', 'p', 'o', 's', ';'], '\''), (['&', 'a', 'm', 'p', ';'], '&'),
    (['&', 'q', 'u', 'o', 't', ';'], '"')]

/-- The entity that a text starts with, as its character and the text after it. -/
def entityAt (s : Text) : Option (Char × Text) :=
  entities.findSome? fun e => (literal e.1 s).map fun rest => (e.2, rest)

/-- The entities of a text replaced by their characters, in the first `fuel` places. -/
def replaceEntities : (fuel : Nat) → Text → Text
  | _, [] => []
  | 0, s => s
  | fuel + 1, c :: s =>
    match entityAt (c :: s) with
    | some (d, rest) => d :: replaceEntities fuel rest
    | none => c :: replaceEntities fuel s

/-- A text with its entities replaced. -/
def decodeHtml (s : Text) : Text := replaceEntities s.length s

/-! ## One character -/

/-- A character is written as its entity, or as itself. -/
theorem encodedHtmlChar_cases (c : Char) :
    (∃ name, (name, c) ∈ entities ∧ encodedHtmlChar c = name) ∨
      (isMarkupChar c = false ∧ c ≠ '&' ∧ encodedHtmlChar c = [c]) := by
  unfold encodedHtmlChar
  split
  · exact Or.inl ⟨_, by decide, rfl⟩
  · exact Or.inl ⟨_, by decide, rfl⟩
  · exact Or.inl ⟨_, by decide, rfl⟩
  · exact Or.inl ⟨_, by decide, rfl⟩
  · exact Or.inl ⟨_, by decide, rfl⟩
  · next hlt hgt hapos hamp hquot =>
      refine Or.inr ⟨?_, hamp, rfl⟩
      rw [isMarkupChar, beq_eq_false_iff_ne.mpr hlt, beq_eq_false_iff_ne.mpr hgt,
        beq_eq_false_iff_ne.mpr hapos, beq_eq_false_iff_ne.mpr hquot]
      rfl

/-- Both copies write the same for a character. -/
theorem encodeChar_eq (c : Char) : encodeChar c = encodedHtmlChar c := by
  unfold encodedHtmlChar
  split
  · rfl
  · rfl
  · rfl
  · rfl
  · rfl
  · next hlt hgt hapos hamp hquot =>
      rw [encodeChar, if_neg hlt, if_neg hgt, if_neg hapos, if_neg hamp, if_neg hquot]

/-- An entity is an ampersand and characters that are not markup and no other
ampersand. -/
theorem entity_form : ∀ e ∈ entities, ∃ name, e.1 = '&' :: name ∧
    ∀ c ∈ name, isMarkupChar c = false ∧ c ≠ '&' := by
  intro e he
  have hall : entities.all (fun e => e.1.head? == some '&' &&
      e.1.tail.all fun c => !isMarkupChar c && c != '&') = true := by decide
  have hform := List.all_eq_true.mp hall e he
  simp only [Bool.and_eq_true, beq_iff_eq, List.all_eq_true, Bool.not_eq_true', bne_iff_ne] at hform
  exact ⟨e.1.tail, (List.cons_head?_tail hform.1).symm, hform.2⟩

/-- An entity is read back, whatever follows it. -/
theorem entityAt_append {name : Text} {c : Char} (h : (name, c) ∈ entities) (rest : Text) :
    entityAt (name ++ rest) = some (c, rest) := by
  simp only [entities, List.mem_cons, Prod.mk.injEq, List.not_mem_nil, or_false] at h
  rcases h with ⟨rfl, rfl⟩ | ⟨rfl, rfl⟩ | ⟨rfl, rfl⟩ | ⟨rfl, rfl⟩ | ⟨rfl, rfl⟩
  · rfl
  · rfl
  · rfl
  · rfl
  · rfl

/-- Nothing else is taken for an entity. -/
theorem entityAt_of_ne {c : Char} (h : c ≠ '&') (s : Text) : entityAt (c :: s) = none := by
  rw [entityAt, List.findSome?_eq_none_iff]
  intro e he
  rcases entity_form e he with ⟨name, hname, -⟩
  rw [Option.map_eq_none_iff, hname, literal, if_neg]
  rw [List.isPrefixOf_iff_prefix, List.cons_prefix_cons]
  exact fun hpre => h hpre.1.symm

/-! ## A whole text -/

theorem outputEncodedHtml_noMarkup (s : Text) :
    ∀ c ∈ outputEncodedHtml s, isMarkupChar c = false := by
  induction s with
  | nil =>
    intro c hc
    cases hc
  | cons d s ih =>
    intro c hc
    rcases List.mem_append.mp hc with hc | hc
    · rcases encodedHtmlChar_cases d with ⟨name, hentity, heq⟩ | ⟨hmarkup, -, heq⟩
      · rcases entity_form _ hentity with ⟨tail, htail, hplain⟩
        rw [heq, show name = '&' :: tail from htail] at hc
        rcases List.mem_cons.mp hc with rfl | hc
        · decide
        · exact (hplain c hc).1
      · rw [heq, List.mem_singleton] at hc
        rwa [hc]
    · exact ih c hc

/-- An ampersand of what is written begins an entity. -/
theorem outputEncodedHtml_ampersand {s front back : Text}
    (h : outputEncodedHtml s = front ++ '&' :: back) :
    ∃ e ∈ entities, e.1 <+: '&' :: back := by
  induction s generalizing front with
  | nil => exact absurd h.symm (by simp [outputEncodedHtml])
  | cons d s ih =>
    rw [outputEncodedHtml, List.append_eq_append_iff] at h
    rcases h with ⟨front', -, hrest⟩ | ⟨cut, hcut, hrest⟩
    · exact ih hrest
    · -- the ampersand is in what is written for the first character, or follows it
      cases cut with
      | nil => exact @ih [] hrest.symm
      | cons a cut =>
        rcases List.cons.inj hrest with ⟨rfl, hback⟩
        have hmem : '&' ∈ encodedHtmlChar d := by
          rw [hcut]
          simp
        rcases encodedHtmlChar_cases d with ⟨name, hentity, heq⟩ | ⟨-, hne, heq⟩
        · rcases entity_form _ hentity with ⟨tail, htail, hplain⟩
          have hname : name = '&' :: tail := htail
          have hfront : front = [] := by
            cases front with
            | nil => rfl
            | cons b front =>
              rw [heq, hname, List.cons_append, List.cons.injEq] at hcut
              exact absurd rfl (hplain '&' (by rw [hcut.2]; simp)).2
          rw [hfront, List.nil_append, heq] at hcut
          refine ⟨_, hentity, ?_⟩
          show name <+: '&' :: back
          rw [hcut, hback]
          exact ⟨outputEncodedHtml s, rfl⟩
        · rw [heq, List.mem_singleton] at hmem
          exact absurd hmem.symm hne

/-- What is written for a character is never empty. -/
theorem encodedHtmlChar_ne_nil (c : Char) : encodedHtmlChar c ≠ [] := by
  rcases encodedHtmlChar_cases c with ⟨name, hentity, heq⟩ | ⟨-, -, heq⟩
  · rcases entity_form _ hentity with ⟨tail, htail, -⟩
    rw [heq, show name = '&' :: tail from htail]
    exact List.cons_ne_nil _ _
  · rw [heq]
    exact List.cons_ne_nil _ _

/-- With enough places the text comes back. -/
theorem replaceEntities_outputEncodedHtml (s : Text) (fuel : Nat)
    (hfuel : (outputEncodedHtml s).length ≤ fuel) :
    replaceEntities fuel (outputEncodedHtml s) = s := by
  induction s generalizing fuel with
  | nil => cases fuel <;> rfl
  | cons c s ih =>
    have hlength : 0 < (encodedHtmlChar c).length :=
      List.length_pos_iff.mpr (encodedHtmlChar_ne_nil c)
    rw [outputEncodedHtml, List.length_append] at hfuel
    cases fuel with
    | zero => omega
    | succ fuel =>
      have hrest := ih fuel (by omega)
      rcases encodedHtmlChar_cases c with ⟨name, hentity, heq⟩ | ⟨-, hne, heq⟩
      · have hat := entityAt_append hentity (outputEncodedHtml s)
        rcases entity_form _ hentity with ⟨tail, htail, -⟩
        have hname : name = '&' :: tail := htail
        rw [hname, List.cons_append] at hat
        rw [outputEncodedHtml, heq, hname, List.cons_append, replaceEntities, hat]
        simp only [hrest]
      · rw [outputEncodedHtml, heq, List.singleton_append, replaceEntities,
          entityAt_of_ne hne]
        simp only [hrest]

/-- The loop stops at the first NUL. -/
theorem outputCstrLoop_eq (s : Text) : outputCstrLoop s = outputEncodedHtml (cstr s) := by
  induction s with
  | nil => rfl
  | cons c s ih =>
    by_cases hc : c = '\x00'
    · rw [outputCstrLoop, if_pos hc, hc]
      rfl
    · rw [outputCstrLoop, if_neg hc, ih, cstr_cons hc, outputEncodedHtml, encodeChar_eq]

/-- The loop is the function that pages are written with. -/
theorem outputCstrEncodedHtml_eq_loop (s : Text) : outputCstrEncodedHtml s = outputCstrLoop s := by
  rw [outputCstrLoop_eq, outputCstrEncodedHtml]
  induction cstr s with
  | nil => rfl
  | cons c s ih => rw [List.flatMap_cons, ih, outputEncodedHtml, encodeChar_eq]

/-- **Safe and lossless.** No markup is written, every ampersand begins an entity,
the text comes back, and both copies agree up to the first NUL. -/
theorem encodedHtml_safe_lossless (s : Text) :
    (∀ c ∈ outputEncodedHtml s, isMarkupChar c = false) ∧
      (∀ front back, outputEncodedHtml s = front ++ '&' :: back →
        ∃ e ∈ entities, e.1 <+: '&' :: back) ∧
      decodeHtml (outputEncodedHtml s) = s ∧
      outputCstrLoop s = outputEncodedHtml (cstr s) ∧
      outputCstrEncodedHtml s = outputEncodedHtml (cstr s) :=
  ⟨outputEncodedHtml_noMarkup s, fun _ _ h => outputEncodedHtml_ampersand h,
    replaceEntities_outputEncodedHtml s _ (le_refl _), outputCstrLoop_eq s,
    (outputCstrEncodedHtml_eq_loop s).trans (outputCstrLoop_eq s)⟩

/-- A text that looks like an entity. -/
example : outputEncodedHtml ['&', 'l', 't', ';'] = ['&', 'a', 'm', 'p', ';', 'l', 't', ';'] := rfl

end HelpCovid.Web
