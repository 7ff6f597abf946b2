import HelpCovid.Lib.Decimal
import HelpCovid.Web.Request

/-!
# Language negotiation

The header `Accept-Language` as browsers send it, a list of language ranges with
weights, and what `request_language` makes of it. It looks for its codes one
after the other anywhere in the text of the header: neither the weights nor the
bounds of the tags count, and an early code of the list wins over the language
that is asked for.
-/

namespace HelpCovid.Web

open CText

/-! ## The header -/

/-- Blanks that may stand around a comma or a semicolon. -/
structure Ows where
  text : Text
  blank : ∀ c ∈ text, c = ' ' ∨ c = '\t'

/-- A weight: `0` or `1`, with at most three decimals, not more than one. -/
structure QValue where
  one : Bool
  decimals : Option Text
  digits : ∀ ds ∈ decimals, ds.length ≤ 3 ∧ ∀ c ∈ ds, c.isDigit = true
  le_one : one = true → ∀ ds ∈ decimals, ∀ c ∈ ds, c = '0'

def QValue.text (q : QValue) : Text :=
  (if q.one then '1' else '0') :: q.decimals.elim [] fun ds => '.' :: ds

/-- The weight in thousandths. -/
def QValue.thousandths (q : QValue) : Nat :=
  if q.one then 1000
  else q.decimals.elim 0 fun ds => decimalNumber (ds ++ List.replicate (3 - ds.length) '0')

/-- `;q=`, with the blanks that are allowed, and the weight. -/
structure Weight where
  before : Ows
  after : Ows
  qvalue : QValue

def Weight.text (w : Weight) : Text :=
  w.before.text ++ ';' :: (w.after.text ++ 'q' :: '=' :: w.qvalue.text)

/-- A primary subtag of one to eight letters. -/
def IsPrimary (s : Text) : Prop := s ≠ [] ∧ s.length ≤ 8 ∧ ∀ c ∈ s, c.isAlpha = true

/-- A subtag of one to eight letters and digits. -/
def IsSubtag (s : Text) : Prop := s ≠ [] ∧ s.length ≤ 8 ∧ ∀ c ∈ s, c.isAlphanum = true

/-- A language range between two commas: `fr`, `en-US;q=0.8`, `*`. -/
structure LanguageRange where
  before : Ows
  primary : Text
  subtags : List Text
  weight : Option Weight
  after : Ows
  wellFormed : (primary = ['*'] ∧ subtags = []) ∨
    (IsPrimary primary ∧ ∀ s ∈ subtags, IsSubtag s)

def LanguageRange.text (r : LanguageRange) : Text :=
  r.before.text ++ (r.primary ++ (r.subtags.flatMap fun s => '-' :: s) ++
    r.weight.elim [] Weight.text) ++ r.after.text

/-- Without a weight a range has the greatest. -/
def LanguageRange.quality (r : LanguageRange) : Nat :=
  r.weight.elim 1000 fun w => w.qvalue.thousandths

/-- The header with these ranges. -/
def acceptLanguage (ranges : List LanguageRange) : Text :=
  [','].intercalate (ranges.map LanguageRange.text)

/-! ## What is asked for -/

/-- The range asks for a language that is supported. -/
def LanguageRange.Supported (r : LanguageRange) : Prop := r.primary ∈ languageCodes

/-- A supported range that no other one outweighs. -/
structure IsBest (ranges : List LanguageRange) (r : LanguageRange) : Prop where
  mem : r ∈ ranges
  supported : r.Supported
  greatest : ∀ r' ∈ ranges, r'.Supported → r'.quality ≤ r.quality

/-- The language that the client prefers, and none when none is supported. -/
def LanguageCorrect (ranges : List LanguageRange) (language : Text) : Prop :=
  (∃ r, IsBest ranges r ∧ language = r.primary) ∨
    (∀ r ∈ ranges, ¬ r.Supported) ∧ language = []

/-! ## What is found -/

theorem languageCodes_ne_nil : ∀ code ∈ languageCodes, code ≠ [] := by decide +kernel

/-- The code that is found occurs in the header, and none that is listed before it. -/
theorem requestLanguage_eq_iff {req : Request} {code : Text} (hne : code ≠ []) :
    requestLanguage req = code ↔
      code <:+: req.acceptLanguage ∧ ∃ front back, languageCodes = front ++ code :: back ∧
        ∀ earlier ∈ front, ¬ earlier <:+: req.acceptLanguage := by
  have hsearch : ∀ c ∈ languageCodes,
      (strstr c req.acceptLanguage).isSome = true ↔ c <:+: req.acceptLanguage :=
    fun c hc => strstr_isSome_iff (languageCodes_ne_nil c hc)
  rw [requestLanguage]
  split
  · next hempty =>
      rw [List.isEmpty_iff.mp hempty]
      refine iff_of_false hne.symm ?_
      rintro ⟨hoccurs, -⟩
      exact hne (List.infix_nil.mp hoccurs)
  · have hfind : (languageCodes.find? fun c => (strstr c req.acceptLanguage).isSome).getD [] =
        code ↔ (languageCodes.find? fun c => (strstr c req.acceptLanguage).isSome) = some code := by
      cases languageCodes.find? fun c => (strstr c req.acceptLanguage).isSome with
      | none => simp [hne.symm]
      | some c => simp
    have hsplit : ∀ {front back}, languageCodes = front ++ code :: back →
        code ∈ languageCodes ∧ ∀ earlier ∈ front, earlier ∈ languageCodes := by
      intro front back hlist
      rw [hlist]
      exact ⟨by simp, fun earlier hearlier => by simp [hearlier]⟩
    rw [hfind, List.find?_eq_some_iff_append]
    constructor
    · rintro ⟨hcode, front, back, hlist, hfront⟩
      rcases hsplit hlist with ⟨hmem, hmems⟩
      refine ⟨(hsearch code hmem).mp hcode, front, back, hlist, ?_⟩
      intro earlier hearlier hoccurs
      have hnot := hfront earlier hearlier
      rw [(hsearch earlier (hmems earlier hearlier)).mpr hoccurs] at hnot
      cases hnot
    · rintro ⟨hoccurs, front, back, hlist, hfront⟩
      rcases hsplit hlist with ⟨hmem, hmems⟩
      refine ⟨(hsearch code hmem).mpr hoccurs, front, back, hlist, ?_⟩
      intro earlier hearlier
      rw [Bool.not_eq_true', ← Bool.not_eq_true]
      exact mt (hsearch earlier (hmems earlier hearlier)).mp (hfront earlier hearlier)

/-- No language is found exactly when no code occurs. -/
theorem requestLanguage_eq_nil_iff {req : Request} :
    requestLanguage req = [] ↔ ∀ code ∈ languageCodes, ¬ code <:+: req.acceptLanguage := by
  constructor
  · intro hnil code hcode hoccurs
    have hsome : (languageCodes.find? fun c => (strstr c req.acceptLanguage).isSome).isSome := by
      rw [List.find?_isSome]
      exact ⟨code, hcode, (strstr_isSome_iff (languageCodes_ne_nil code hcode)).mpr hoccurs⟩
    rcases Option.isSome_iff_exists.mp hsome with ⟨found, hfound⟩
    have hne := languageCodes_ne_nil found (List.mem_of_find?_eq_some hfound)
    have hheader : ¬ req.acceptLanguage.isEmpty = true := by
      intro hempty
      rw [List.isEmpty_iff.mp hempty] at hoccurs
      exact languageCodes_ne_nil code hcode (List.infix_nil.mp hoccurs)
    rw [requestLanguage, if_neg hheader, hfound, Option.getD_some] at hnil
    exact hne hnil
  · intro hnone
    by_contra hne
    rcases (requestLanguage_eq_iff hne).mp rfl with ⟨hoccurs, front, back, hlist, -⟩
    refine hnone _ ?_ hoccurs
    rw [hlist]
    simp

/-- A part of an element is a part of the list. -/
theorem infix_acceptLanguage {ranges : List LanguageRange} {r : LanguageRange} (h : r ∈ ranges) :
    r.primary <:+: acceptLanguage ranges := by
  have htext : r.primary <:+: r.text := by
    refine ⟨r.before.text, (r.subtags.flatMap fun s => '-' :: s) ++
      r.weight.elim [] Weight.text ++ r.after.text, ?_⟩
    simp only [LanguageRange.text, List.append_assoc]
  refine htext.trans ?_
  -- on the ranges; the first one begins the header
  induction ranges with
  | nil => cases h
  | cons first ranges ih =>
    cases ranges with
    | nil =>
      obtain rfl := List.mem_singleton.mp h
      have hone : acceptLanguage [r] = r.text := List.intercalate_singleton
      rw [hone]
    | cons second ranges =>
      have hcons : acceptLanguage (first :: second :: ranges) =
          first.text ++ ([','] ++ acceptLanguage (second :: ranges)) := by
        simp [acceptLanguage]
      rw [hcons]
      rcases List.mem_cons.mp h with rfl | h
      · exact (List.prefix_append _ _).isInfix
      · exact (ih h).trans ((List.suffix_append _ _).trans (List.suffix_append _ _)).isInfix

/-! ## When it is right -/

/-- No code listed before this one occurs in the header. -/
def NothingBefore (header code : Text) : Prop :=
  ∃ front back, languageCodes = front ++ code :: back ∧ ∀ earlier ∈ front, ¬ earlier <:+: header

/-- **Exactness.** The answer is right when nothing that is listed before the
preferred language occurs in the header, or when nothing is supported and no code
occurs at all. -/
theorem languageCorrect_iff (method path : Text) (ranges : List LanguageRange) :
    LanguageCorrect ranges (requestLanguage ⟨method, path, acceptLanguage ranges⟩) ↔
      (∃ r, IsBest ranges r ∧ NothingBefore (acceptLanguage ranges) r.primary) ∨
        (∀ r ∈ ranges, ¬ r.Supported) ∧
          ∀ code ∈ languageCodes, ¬ code <:+: acceptLanguage ranges := by
  refine or_congr (exists_congr fun r => and_congr_right fun hbest => ?_)
    (and_congr_right fun _ => requestLanguage_eq_nil_iff)
  have hne := languageCodes_ne_nil r.primary hbest.supported
  rw [requestLanguage_eq_iff hne]
  exact and_iff_right (infix_acceptLanguage hbest.mem)

/-! ## A French browser -/

def noBlanks : Ows := ⟨[], by simp⟩

/-- `;q=0.d` -/
def tenths (d : Char) (hd : d.isDigit = true) : Weight :=
  ⟨noBlanks, noBlanks, false, some [d], by simp [hd], by simp⟩

/-- `fr-FR,fr;q=0.9,en;q=0.8` -/
def frenchRanges : List LanguageRange :=
  [⟨noBlanks, ['f', 'r'], [['F', 'R']], none, noBlanks, Or.inr
      ⟨⟨by decide, by decide, List.all_eq_true.mp (by decide)⟩, by
        intro s hs
        obtain rfl := List.mem_singleton.mp hs
        exact ⟨by decide, by decide, List.all_eq_true.mp (by decide)⟩⟩⟩,
    ⟨noBlanks, ['f', 'r'], [], some (tenths '9' (by decide)), noBlanks, Or.inr
      ⟨⟨by decide, by decide, List.all_eq_true.mp (by decide)⟩, by simp⟩⟩,
    ⟨noBlanks, ['e', 'n'], [], some (tenths '8' (by decide)), noBlanks, Or.inr
      ⟨⟨by decide, by decide, List.all_eq_true.mp (by decide)⟩, by simp⟩⟩]

example : acceptLanguage frenchRanges = "fr-FR,fr;q=0.9,en;q=0.8".toList := by decide

/-- It gets English, which comes first in the list of codes. -/
theorem requestLanguage_frenchRanges :
    requestLanguage ⟨"GET".toList, "/".toList, acceptLanguage frenchRanges⟩ = ['e', 'n'] ∧
      ¬ LanguageCorrect frenchRanges
        (requestLanguage ⟨"GET".toList, "/".toList, acceptLanguage frenchRanges⟩) := by
  have henglish : requestLanguage ⟨"GET".toList, "/".toList, acceptLanguage frenchRanges⟩ =
      ['e', 'n'] := by decide +kernel
  refine ⟨henglish, ?_⟩
  rw [henglish]
  rintro (⟨r, hbest, heq⟩ | ⟨-, hnil⟩)
  · -- the first range has the greater weight
    have hfrench : ['f', 'r'] ∈ languageCodes := by decide +kernel
    have hle := hbest.greatest _ (List.mem_cons_self) hfrench
    have hquality : ∀ r ∈ frenchRanges, r.primary = ['e', 'n'] → r.quality = 800 := by
      intro r hr hprimary
      simp only [frenchRanges, List.mem_cons, List.not_mem_nil, or_false] at hr
      rcases hr with rfl | rfl | rfl
      · exact absurd hprimary (by decide)
      · exact absurd hprimary (by decide)
      · decide
    rw [hquality r hbest.mem heq.symm] at hle
    exact absurd hle (by decide)
  · cases hnil

end HelpCovid.Web
