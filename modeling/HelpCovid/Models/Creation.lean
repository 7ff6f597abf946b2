import HelpCovid.Lib.Columns
import HelpCovid.Models.User

/-!
# The insertion of a user

`hcv_user_model_create` inserts what `hcv_user_model_validate` lets through. The
validation, the statement and the table do not fit together: no statement has the
name that is used, the statement that was meant leaves out the telephone, which
the table requires, and neither the widths of the columns nor the genders of the
database are looked at.
-/

namespace HelpCovid.Models

open Database

/-! ## The table -/

/-- The labels of `en_gender`. -/
def genderLabels : List Text :=
  ["GENDER_MALE".toList, "GENDER_FEMALE".toList, "GENDER_OTHER".toList,
    "GENDER_UNDISCLOSED".toList]

/-- The columns of `sql_tb_user`. -/
def tbUserColumns : List Sql.Column :=
  [⟨"user_id", .other "SERIAL", true, true⟩,
    ⟨"user_firstname", .varchar 31, true, false⟩,
    ⟨"user_familyname", .varchar 62, true, false⟩,
    ⟨"user_email", .varchar 71, true, false⟩,
    ⟨"user_telephone", .varchar 23, true, false⟩,
    ⟨"user_gender", .enum genderLabels, true, false⟩,
    ⟨"user_status", .other "en_status", true, true⟩,
    ⟨"user_crtime", .other "TIMESTAMP", false, true⟩]

/-- The columns that the statement on users names. -/
def userCreateColumns : List String :=
  ["user_firstname", "user_familyname", "user_email", "user_gender"]

/-- They are those of the registered text, which does not close its parenthesis. -/
example : (prepareStatementsInDatabase.find? fun p => p.name == "user_create_pstm").map Prepared.sql =
    some ("INSERT INTO tb_user (" ++ ", ".intercalate userCreateColumns ++
      "  VALUES ($1, $2, $3, $4);") := by
  decide

/-- The values that the insertion gives to columns. -/
def givenValues (model : UserModel) : List (String × Text) :=
  userCreateColumns.zip (insertOf model).params

/-! ## What is asked for -/

/-- The insertion of an accepted model: its statement is registered, its values meet
the constraints of the table, and the function returns `true` with one new row. -/
structure CreateSafe (input : String → Text → Bool) (server : Server) (model status : UserModel)
    (conn : Connection) : Prop where
  registered : (insertOf model).name ∈ prepareStatementsInDatabase.map Prepared.name
  meets : Sql.Meets input tbUserColumns (givenValues model)
  inserted : (userModelCreate server model status conn).2.2 = .ok true ∧
    ∃ row, (userModelCreate server model status conn).1.tables =
      { conn.tables with tbUser := conn.tables.tbUser ++ [row] }

/-! ## What becomes of it -/

section Create

variable (input : String → Text → Bool) (server : Server) (model status : UserModel)
  (conn : Connection)

theorem not_registered_insertOf :
    (insertOf model).name ∉ prepareStatementsInDatabase.map Prepared.name := by
  have hname : "user_create" ∉ prepareStatementsInDatabase.map Prepared.name := by decide
  exact hname

/-- The telephone is left out. -/
theorem not_meets_givenValues : ¬ Sql.Meets input tbUserColumns (givenValues model) := by
  have htelephone : (⟨"user_telephone", .varchar 23, true, false⟩ : Sql.Column) ∈ tbUserColumns := by
    decide
  exact Sql.not_meets_of_omitted input htelephone rfl rfl rfl

variable {server model status}

/-- An accepted model ends in an exception and leaves the tables as they were. -/
theorem tables_userModelCreate (h : (userModelValidate model status).1 = true) :
    (userModelCreate server model status conn).1.tables = conn.tables := by
  simp only [userModelCreate, h, Bool.not_true, Bool.false_eq_true, if_false, Connection.query,
    query_insertOf]

/-- **Never.** No part of a safe insertion holds for any model that is accepted. -/
theorem userModelCreate_never_safe (h : (userModelValidate model status).1 = true) :
    (insertOf model).name ∉ prepareStatementsInDatabase.map Prepared.name ∧
      ¬ Sql.Meets input tbUserColumns (givenValues model) ∧
      (userModelCreate server model status conn).2.2 = .error (.unknownStatement "user_create") ∧
      (userModelCreate server model status conn).1.tables = conn.tables ∧
      ¬ CreateSafe input server model status conn :=
  ⟨not_registered_insertOf model, not_meets_givenValues input model,
    userModelCreate_raises server h conn, tables_userModelCreate conn h,
    fun hsafe => not_registered_insertOf model hsafe.registered⟩

end Create

/-- A user that the table would take, but for the telephone. -/
def adaModel : UserModel :=
  ⟨"Ada".toList, "Low".toList, "ada@low.org".toList, "GENDER_FEMALE".toList⟩

theorem userModelCreate_never_safe_ada :
    (insertOf adaModel).name ∉ prepareStatementsInDatabase.map Prepared.name ∧
      ¬ Sql.Meets (fun _ _ => true) tbUserColumns (givenValues adaModel) ∧
      (userModelCreate (fun _ _ db => .ok ([], db)) adaModel adaModel ⟨⟨[], [], [], []⟩, []⟩).2.2 =
        .error (.unknownStatement "user_create") ∧
      (userModelCreate (fun _ _ db => .ok ([], db)) adaModel adaModel
        ⟨⟨[], [], [], []⟩, []⟩).1.tables = ⟨[], [], [], []⟩ ∧
      ¬ CreateSafe (fun _ _ => true) (fun _ _ db => .ok ([], db)) adaModel adaModel
        ⟨⟨[], [], [], []⟩, []⟩ :=
  userModelCreate_never_safe _ _ (by decide +kernel)

/-- It is accepted, and so is one whose gender is not in the database; neither is
inserted. -/
theorem userModelCreate_ada :
    (userModelValidate adaModel adaModel).1 = true ∧
      (userModelValidate { adaModel with userGender := "F".toList } adaModel).1 = true ∧
      "F".toList ∉ genderLabels ∧
      ∀ input server conn, ¬ CreateSafe input server adaModel adaModel conn := by
  refine ⟨by decide +kernel, by decide +kernel, by decide, fun input server conn hsafe => ?_⟩
  exact not_registered_insertOf adaModel hsafe.registered

end HelpCovid.Models
