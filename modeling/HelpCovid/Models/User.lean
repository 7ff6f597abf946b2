import HelpCovid.Lib.Regex
import HelpCovid.Database.Prepared

/-!
# The user model

The fields of a registration, the two validators, `hcv_user_model_validate`,
which runs them and leaves a message for each field, and
`hcv_user_model_create`, which inserts the user.

The return value is right on the models that have all four fields: where one is
missing the messages say so, but the last statement of the validation returns
`true`. The messages are right on every model.
-/

namespace HelpCovid.Models

open CText Regex Database

/-- `hcv_user_model`; the same record carries the messages. -/
structure UserModel where
  userFirstName : Text
  userFamilyName : Text
  userEmail : Text
  userGender : Text
deriving Repr, DecidableEq

/-! ## The pattern of an e-mail -/

/-- The characters of `\w`. -/
def wordChars : List Char := ((List.range 128).map Char.ofNat).filter isNameChar

/-- `(\w+)(\.|_)?(\w*)@(\w+)(\.(\w+))+` -/
def emailPattern : RegularExpression Char :=
  oneOrMore (oneOf wordChars) * optional (oneOf ['.', '_']) *
    RegularExpression.star (oneOf wordChars) * RegularExpression.char '@' *
    oneOrMore (oneOf wordChars) *
    oneOrMore (RegularExpression.char '.' * oneOrMore (oneOf wordChars))

/-! ## The code -/

/-- `hcv_model_validator_required`: the result and the message. -/
def validatorRequired (field tag : Text) : Bool × Text :=
  if field.isEmpty then (false, "The ".toList ++ tag ++ " is required".toList)
  else (true, "OK".toList)

/-- `hcv_model_validator_email` -/
def validatorEmail (field tag : Text) : Bool × Text :=
  if !emailPattern.rmatch field then (false, "The ".toList ++ tag ++ " is invalid".toList)
  else (true, "OK".toList)

/-- `hcv_user_model_validate`: the result and the new messages. -/
def userModelValidate (model status : UserModel) : Bool × UserModel :=
  let (firstOk, message) := validatorRequired model.userFirstName "first name".toList
  let status := { status with userFirstName := message }
  let (familyOk, message) := validatorRequired model.userFamilyName "family name".toList
  let status := { status with userFamilyName := message }
  let (emailOk, message) := validatorRequired model.userEmail "e-mail address".toList
  let status := { status with userEmail := message }
  let (genderOk, message) := validatorRequired model.userGender "gender".toList
  let status := { status with userGender := message }
  if firstOk && familyOk && emailOk && genderOk then
    let (matched, message) := validatorEmail model.userEmail "e-mail address".toList
    (matched, { status with userEmail := message })
  else
    -- a required field is missing
    (true, status)

/-- The database connection, with the statements that were executed on it. -/
structure Connection where
  tables : Tables
  executed : List PreparedStatement

variable (server : Server)

/-- `stmt.query()`, recorded. -/
def Connection.query (conn : Connection) (stmt : PreparedStatement) :
    Connection × Except PqxxError Result :=
  match stmt.query server conn.tables with
  | .ok (result, tables) => (⟨tables, conn.executed ++ [stmt]⟩, .ok result)
  | .error e => ({ conn with executed := conn.executed ++ [stmt] }, .error e)

/-- The insertion that `hcv_user_model_create` issues. -/
def insertOf (model : UserModel) : PreparedStatement :=
  (((PreparedStatement.new "user_create").bind model.userFirstName).bind
    model.userFamilyName).bind model.userEmail |>.bind model.userGender

/-- `hcv_user_model_create`: the connection, the messages, and the result or the
exception. -/
def userModelCreate (model status : UserModel) (conn : Connection) :
    Connection × UserModel × Except PqxxError Bool :=
  let (valid, status) := userModelValidate model status
  if !valid then (conn, status, .ok false)
  else
    let (conn, answer) := conn.query server (insertOf model)
    (conn, status, answer.map fun _ => true)

/-! ## What the validation is for -/

/-- All four fields are there. -/
structure Complete (model : UserModel) : Prop where
  firstName : model.userFirstName ≠ []
  familyName : model.userFamilyName ≠ []
  email : model.userEmail ≠ []
  gender : model.userGender ≠ []

/-- A model that may be inserted. -/
def Valid (model : UserModel) : Prop :=
  Complete model ∧ model.userEmail ∈ emailPattern.matches'

/-- All four messages are `OK`. -/
def AllOk (status : UserModel) : Prop :=
  status = ⟨"OK".toList, "OK".toList, "OK".toList, "OK".toList⟩

/-- The return value, the messages and the insertions agree with `Valid`. -/
structure ValidationCorrect (model : UserModel) : Prop where
  result : ∀ status, (userModelValidate model status).1 = true ↔ Valid model
  messages : ∀ status, AllOk (userModelValidate model status).2 ↔ Valid model
  insertion : ¬ Valid model → ∀ server status conn,
    (userModelCreate server model status conn).1.executed = conn.executed

instance (model : UserModel) : Decidable (Complete model) :=
  decidable_of_iff (model.userFirstName ≠ [] ∧ model.userFamilyName ≠ [] ∧
    model.userEmail ≠ [] ∧ model.userGender ≠ [])
    ⟨fun ⟨h1, h2, h3, h4⟩ => ⟨h1, h2, h3, h4⟩, fun ⟨h1, h2, h3, h4⟩ => ⟨h1, h2, h3, h4⟩⟩

/-! ## The shape of an accepted e-mail -/

theorem toNat_lt_of_isAlphanum {c : Char} (h : c.isAlphanum = true) : c.toNat < 128 := by
  have hle : ∀ d : Char, d.toNat < 128 → c.val ≤ d.val → c.toNat < 128 :=
    fun d hd hcd => lt_of_le_of_lt (UInt32.le_iff_toNat_le.mp hcd) hd
  rcases Bool.or_eq_true_iff.mp h with halpha | hdigit
  · rcases Bool.or_eq_true_iff.mp halpha with hupper | hlower
    · exact hle 'Z' (by decide) (of_decide_eq_true hupper).2
    · exact hle 'z' (by decide) (of_decide_eq_true (Bool.and_eq_true_iff.mp hlower).2)
  · exact hle '9' (by decide) (of_decide_eq_true (Bool.and_eq_true_iff.mp hdigit).2)

theorem mem_wordChars (c : Char) : c ∈ wordChars ↔ isNameChar c = true := by
  rw [wordChars, List.mem_filter]
  constructor
  · exact And.right
  · intro hc
    refine ⟨List.mem_map.mpr ⟨c.toNat, ?_, Char.ofNat_toNat c⟩, hc⟩
    rw [List.mem_range]
    rcases Bool.or_eq_true_iff.mp hc with halnum | hunderscore
    · exact toNat_lt_of_isAlphanum halnum
    · rw [beq_iff_eq.mp hunderscore]
      decide

/-- A text of `\w+`. -/
def IsWord (s : Text) : Prop := s ≠ [] ∧ ∀ c ∈ s, isNameChar c = true

theorem word_rmatch_iff (s : Text) : (oneOrMore (oneOf wordChars)).rmatch s ↔ IsWord s := by
  rw [oneOrMore_oneOf_rmatch_iff]
  simp only [mem_wordChars, IsWord]

/-- What stands before the `@`: a word, or a word and a dot and any word
characters. -/
def IsLocalPart (s : Text) : Prop :=
  IsWord s ∨ ∃ a b, s = a ++ '.' :: b ∧ IsWord a ∧ ∀ c ∈ b, isNameChar c = true

/-- What stands after the `@`: two words or more, with dots between them. -/
def IsDomain (s : Text) : Prop :=
  ∃ label labels, labels ≠ [] ∧ s = label ++ (labels.map fun l => '.' :: l).flatten ∧
    IsWord label ∧ ∀ l ∈ labels, IsWord l

theorem localPart_rmatch_iff (s : Text) :
    (oneOrMore (oneOf wordChars) * optional (oneOf ['.', '_']) *
      RegularExpression.star (oneOf wordChars)).rmatch s ↔ IsLocalPart s := by
  simp only [RegularExpression.mul_rmatch_iff, word_rmatch_iff, optional_rmatch_iff,
    star_oneOf_rmatch_iff, oneOf_rmatch_iff, mem_wordChars]
  constructor
  · rintro ⟨_, b, rfl, ⟨a, sep, rfl, ha, hsep⟩, hb⟩
    rcases hsep with ⟨d, hd, rfl⟩ | rfl
    · simp only [List.mem_cons, List.not_mem_nil, or_false] at hd
      rcases hd with rfl | rfl
      · exact Or.inr ⟨a, b, by simp, ha, hb⟩
      · -- an underscore is a word character
        refine Or.inl ⟨by simp, ?_⟩
        intro c hc
        simp only [List.mem_append, List.mem_singleton] at hc
        rcases hc with (hc | rfl) | hc
        · exact ha.2 c hc
        · decide
        · exact hb c hc
    · refine Or.inl ⟨by simp [ha.1], ?_⟩
      intro c hc
      simp only [List.append_nil, List.mem_append] at hc
      exact hc.elim (ha.2 c) (hb c)
  · rintro (hs | ⟨a, b, rfl, ha, hb⟩)
    · exact ⟨s, [], by simp, ⟨s, [], by simp, hs, Or.inr rfl⟩, by simp⟩
    · exact ⟨a ++ ['.'], b, by simp, ⟨a, ['.'], rfl, ha, Or.inl ⟨'.', by simp, rfl⟩⟩, hb⟩

theorem dottedWord_rmatch_iff (s : Text) :
    (RegularExpression.char '.' * oneOrMore (oneOf wordChars)).rmatch s ↔
      ∃ l, s = '.' :: l ∧ IsWord l := by
  simp only [RegularExpression.mul_rmatch_iff, RegularExpression.char_rmatch_iff, word_rmatch_iff]
  constructor
  · rintro ⟨_, l, rfl, rfl, hl⟩
    exact ⟨l, rfl, hl⟩
  · rintro ⟨l, rfl, hl⟩
    exact ⟨['.'], l, rfl, rfl, hl⟩

theorem domainEnd_rmatch_iff (s : Text) :
    (oneOrMore (RegularExpression.char '.' * oneOrMore (oneOf wordChars))).rmatch s ↔
      ∃ labels : List Text, labels ≠ [] ∧ s = (labels.map fun l => '.' :: l).flatten ∧
        ∀ l ∈ labels, IsWord l := by
  have hnil : (RegularExpression.char '.' * oneOrMore (oneOf wordChars)).rmatch [] = false := by
    rw [← Bool.not_eq_true, dottedWord_rmatch_iff]
    rintro ⟨l, hl, -⟩
    exact absurd hl (by simp)
  rw [oneOrMore_rmatch_iff_flatten hnil]
  simp only [dottedWord_rmatch_iff]
  constructor
  · rintro ⟨S, hne, rfl, hS⟩
    have htail : ∀ t ∈ S, '.' :: t.tail = t := by
      intro t ht
      rcases hS t ht with ⟨l, rfl, -⟩
      rfl
    refine ⟨S.map List.tail, by simpa using hne, ?_, ?_⟩
    · rw [List.map_map]
      exact congrArg List.flatten ((List.map_congr_left htail).trans (List.map_id' S)).symm
    · intro l hl
      rcases List.mem_map.mp hl with ⟨t, ht, rfl⟩
      rcases hS t ht with ⟨l, rfl, hword⟩
      exact hword
  · rintro ⟨labels, hne, rfl, hlabels⟩
    refine ⟨labels.map fun l => '.' :: l, by simpa using hne, rfl, ?_⟩
    intro t ht
    rcases List.mem_map.mp ht with ⟨l, hl, rfl⟩
    exact ⟨l, rfl, hlabels l hl⟩

/-- The e-mails that the pattern accepts. -/
theorem emailPattern_rmatch_iff (s : Text) :
    emailPattern.rmatch s ↔
      ∃ user domain, s = user ++ '@' :: domain ∧ IsLocalPart user ∧ IsDomain domain := by
  rw [emailPattern, RegularExpression.mul_rmatch_iff]
  simp only [RegularExpression.mul_rmatch_iff (_ * _) (oneOrMore (oneOf wordChars)),
    RegularExpression.mul_rmatch_iff _ (RegularExpression.char '@'), localPart_rmatch_iff,
    RegularExpression.char_rmatch_iff, word_rmatch_iff, domainEnd_rmatch_iff]
  constructor
  · rintro ⟨_, _, rfl, ⟨_, label, rfl, ⟨user, _, rfl, huser, rfl⟩, hlabel⟩, labels, hne, rfl, hl⟩
    exact ⟨user, label ++ (labels.map fun l => '.' :: l).flatten, by simp, huser,
      label, labels, hne, rfl, hlabel, hl⟩
  · rintro ⟨user, _, rfl, huser, label, labels, hne, rfl, hlabel, hl⟩
    exact ⟨user ++ '@' :: label, _, by simp,
      ⟨user ++ ['@'], label, by simp, ⟨user, ['@'], rfl, huser, rfl⟩, hlabel⟩,
      labels, hne, rfl, hl⟩

/-! ## The validation -/

theorem validatorRequired_fst (field tag : Text) :
    (validatorRequired field tag).1 = true ↔ field ≠ [] := by
  unfold validatorRequired
  split <;> simp_all

theorem validatorRequired_snd (field tag : Text) :
    (validatorRequired field tag).2 = "OK".toList ↔ field ≠ [] := by
  unfold validatorRequired
  split <;> simp_all

theorem validatorEmail_fst (field tag : Text) :
    (validatorEmail field tag).1 = emailPattern.rmatch field := by
  unfold validatorEmail
  split <;> simp_all

theorem validatorEmail_snd (field tag : Text) :
    (validatorEmail field tag).2 = "OK".toList ↔ emailPattern.rmatch field := by
  unfold validatorEmail
  split <;> simp_all

/-- The validation when a field is missing or not, with the messages in place. -/
theorem userModelValidate_eq (model status : UserModel) :
    userModelValidate model status =
      if (validatorRequired model.userFirstName "first name".toList).1 &&
          (validatorRequired model.userFamilyName "family name".toList).1 &&
          (validatorRequired model.userEmail "e-mail address".toList).1 &&
          (validatorRequired model.userGender "gender".toList).1 then
        ((validatorEmail model.userEmail "e-mail address".toList).1,
          ⟨(validatorRequired model.userFirstName "first name".toList).2,
            (validatorRequired model.userFamilyName "family name".toList).2,
            (validatorEmail model.userEmail "e-mail address".toList).2,
            (validatorRequired model.userGender "gender".toList).2⟩)
      else
        (true,
          ⟨(validatorRequired model.userFirstName "first name".toList).2,
            (validatorRequired model.userFamilyName "family name".toList).2,
            (validatorRequired model.userEmail "e-mail address".toList).2,
            (validatorRequired model.userGender "gender".toList).2⟩) := rfl

theorem complete_iff_required (model : UserModel) :
    ((validatorRequired model.userFirstName "first name".toList).1 &&
      (validatorRequired model.userFamilyName "family name".toList).1 &&
      (validatorRequired model.userEmail "e-mail address".toList).1 &&
      (validatorRequired model.userGender "gender".toList).1) = true ↔ Complete model := by
  rw [Bool.and_eq_true, Bool.and_eq_true, Bool.and_eq_true]
  simp only [validatorRequired_fst]
  constructor
  · rintro ⟨⟨⟨h1, h2⟩, h3⟩, h4⟩
    exact ⟨h1, h2, h3, h4⟩
  · rintro ⟨h1, h2, h3, h4⟩
    exact ⟨⟨⟨h1, h2⟩, h3⟩, h4⟩

/-- With all fields there the result is that of the e-mail's check. -/
theorem userModelValidate_of_complete {model : UserModel} (h : Complete model)
    (status : UserModel) :
    userModelValidate model status =
      ((validatorEmail model.userEmail "e-mail address".toList).1,
        ⟨"OK".toList, "OK".toList, (validatorEmail model.userEmail "e-mail address".toList).2,
          "OK".toList⟩) := by
  rw [userModelValidate_eq, if_pos ((complete_iff_required model).mpr h),
    (validatorRequired_snd _ _).mpr h.firstName, (validatorRequired_snd _ _).mpr h.familyName,
    (validatorRequired_snd _ _).mpr h.gender]

/-- With a field missing the result is `true` all the same; the messages tell. -/
theorem userModelValidate_of_incomplete {model : UserModel} (h : ¬ Complete model)
    (status : UserModel) :
    (userModelValidate model status).1 = true ∧ ¬ AllOk (userModelValidate model status).2 := by
  rw [userModelValidate_eq, if_neg (mt (complete_iff_required model).mp h)]
  refine ⟨rfl, ?_⟩
  rw [AllOk, UserModel.mk.injEq]
  rintro ⟨h1, h2, h3, h4⟩
  exact h ⟨(validatorRequired_snd _ _).mp h1, (validatorRequired_snd _ _).mp h2,
    (validatorRequired_snd _ _).mp h3, (validatorRequired_snd _ _).mp h4⟩

/-- The messages are right on every model. -/
theorem allOk_userModelValidate_iff (model status : UserModel) :
    AllOk (userModelValidate model status).2 ↔ Valid model := by
  by_cases h : Complete model
  · rw [userModelValidate_of_complete h, AllOk, UserModel.mk.injEq]
    simp only [validatorEmail_snd, true_and, and_true]
    rw [RegularExpression.rmatch_iff_matches', Valid, and_iff_right h]
  · exact iff_of_false (userModelValidate_of_incomplete h status).2 (fun hvalid => h hvalid.1)

/-- A model that is refused is not inserted. -/
theorem userModelCreate_of_refused {model status : UserModel}
    (h : (userModelValidate model status).1 ≠ true) (conn : Connection) :
    (userModelCreate server model status conn).1 = conn := by
  have hfalse := Bool.eq_false_iff.mpr h
  simp only [userModelCreate, hfalse, Bool.not_false, if_true]

theorem executed_query (conn : Connection) (stmt : PreparedStatement) :
    (conn.query server stmt).1.executed = conn.executed ++ [stmt] := by
  unfold Connection.query
  split <;> rfl

/-- A model that is let through is inserted. -/
theorem userModelCreate_of_accepted {model status : UserModel}
    (h : (userModelValidate model status).1 = true) (conn : Connection) :
    (userModelCreate server model status conn).1.executed =
      conn.executed ++ [insertOf model] := by
  simp only [userModelCreate, h, Bool.not_true, Bool.false_eq_true, if_false]
  exact executed_query server conn (insertOf model)

/-- No statement was prepared under the name that the insertion uses. -/
theorem query_insertOf (model : UserModel) (db : Tables) :
    (insertOf model).query server db = .error (.unknownStatement "user_create") := by
  have hname : ∀ p ∈ prepareStatementsInDatabase, p.name ≠ "user_create" := by decide
  exact execPrepared_of_unknown server _ db hname

theorem userModelCreate_raises {model status : UserModel}
    (h : (userModelValidate model status).1 = true) (conn : Connection) :
    (userModelCreate server model status conn).2.2 =
      .error (.unknownStatement "user_create") := by
  simp only [userModelCreate, h, Bool.not_true, Bool.false_eq_true, if_false, Connection.query,
    query_insertOf]
  rfl

/-- **Exactness.** The validation is right exactly where no field is missing. -/
theorem validationCorrect_iff (model : UserModel) : ValidationCorrect model ↔ Complete model := by
  constructor
  · intro hcorrect
    by_contra hincomplete
    have hresult := (userModelValidate_of_incomplete hincomplete model).1
    exact hincomplete ((hcorrect.result model).mp hresult).1
  · intro hcomplete
    have hresult : ∀ status, (userModelValidate model status).1 = true ↔ Valid model := by
      intro status
      rw [userModelValidate_of_complete hcomplete, validatorEmail_fst,
        RegularExpression.rmatch_iff_matches', Valid, and_iff_right hcomplete]
    refine ⟨hresult, allOk_userModelValidate_iff model, ?_⟩
    intro hinvalid server status conn
    rw [userModelCreate_of_refused server (mt (hresult status).mp hinvalid)]

/-- A registration without a first name, and with a text that is no e-mail. -/
def namelessModel : UserModel := ⟨[], "Doe".toList, "nowhere".toList, "M".toList⟩

/-- It is accepted with a message that says why it should not be, and inserted. -/
theorem validate_namelessModel :
    userModelValidate namelessModel namelessModel =
        (true, ⟨"The first name is required".toList, "OK".toList, "OK".toList, "OK".toList⟩) ∧
      (∀ server conn, (userModelCreate server namelessModel namelessModel conn).1.executed =
        conn.executed ++ [insertOf namelessModel]) ∧
      ¬ ValidationCorrect namelessModel := by
  have hresult : userModelValidate namelessModel namelessModel =
      (true, ⟨"The first name is required".toList, "OK".toList, "OK".toList, "OK".toList⟩) := rfl
  have haccepted : (userModelValidate namelessModel namelessModel).1 = true := by rw [hresult]
  refine ⟨hresult, fun server conn => userModelCreate_of_accepted server haccepted conn, ?_⟩
  intro hcorrect
  exact absurd rfl ((hcorrect.result namelessModel).mp haccepted).1.firstName

end HelpCovid.Models
