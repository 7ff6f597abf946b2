import HelpCovid.Database.Schema

/-!
# Prepared statements

The statements that HelpCovid prepares on its connection, and
`Hcv_PreparedStatement`, which runs one by its name. What the server does with
the text of a statement is a parameter. A name that was not prepared is refused
before anything is sent.
-/

namespace HelpCovid.Database

/-- The exceptions of libpqxx. -/
inductive PqxxError where
  /-- a statement that was not prepared on the connection -/
  | unknownStatement (name : String)
  /-- an error of the server -/
  | sql (message : String)
  /-- a field that is null or missing, read as a value -/
  | nullConversion
deriving Repr, DecidableEq

/-- The rows of a result; a null field is `none`. -/
abbrev Result := List (List (Option Text))

/-- What the server does with a statement and its parameters. -/
abbrev Server := String → List Text → Tables → Except PqxxError (Result × Tables)

/-- A statement prepared on the connection. -/
structure Prepared where
  name : String
  sql : String
deriving Repr, DecidableEq

/-- `prepare_user_model_statements` -/
def prepareUserModelStatements : List Prepared :=
  [⟨"user_create_pstm",
      "INSERT INTO tb_user (user_firstname, user_familyname, user_email, user_gender " ++
      " VALUES ($1, $2, $3, $4);"⟩,
    ⟨"user_get_password_by_email_pstm",
      "SELECT passwd_encr FROM tb_password WHERE passw_userid = " ++
      "(SELECT user_id WHERE user_email = $1) ORDER BY passw_mtime DESC" ++
      " LIMIT 1;"⟩]

/-- `hcv_prepare_statements_in_database` -/
def prepareStatementsInDatabase : List Prepared :=
  [⟨"find_user_by_email_pstm",
      "\nSELECT user_id FROM tb_user WHERE user_email=$1\n"⟩,
    ⟨"add_web_cookie_pstm",
      "\nINSERT INTO tb_web_cookie\n     (wcookie_random, wcookie_exptime, " ++
      "wcookie_webagenthash)\nVALUES ($1, to_timestamp($2), $3)\n"⟩,
    ⟨"lastval_pstm", "SELECT LASTVAL()"⟩] ++ prepareUserModelStatements

variable (server : Server)

/-- The execution of a prepared statement. -/
def execPrepared (name : String) (params : List Text) :
    StateT Tables (Except PqxxError) Result := fun db =>
  match prepareStatementsInDatabase.find? fun p => p.name == name with
  | none => .error (.unknownStatement name)
  | some p => server p.sql params db

/-- `Hcv_PreparedStatement` -/
structure PreparedStatement where
  name : String
  params : List Text

/-- The constructor; the name is not looked at before the execution. -/
def PreparedStatement.new (name : String) : PreparedStatement := ⟨name, []⟩

/-- `Hcv_PreparedStatement::bind` -/
def PreparedStatement.bind (stmt : PreparedStatement) (arg : Text) : PreparedStatement :=
  { stmt with params := stmt.params ++ [arg] }

/-- `Hcv_PreparedStatement::query` -/
def PreparedStatement.query (stmt : PreparedStatement) :
    StateT Tables (Except PqxxError) Result := execPrepared server stmt.name stmt.params

/-- `row[i].as<std::string>()`; the row is missing when the result is empty. -/
def asString (row : Option (List (Option Text))) (i : Nat) :
    StateT Tables (Except PqxxError) Text := fun db =>
  match row.bind fun fields => fields[i]? with
  | some (some text) => .ok (text, db)
  | _ => .error .nullConversion

theorem execPrepared_of_unknown {name : String} (params : List Text) (db : Tables)
    (h : ∀ p ∈ prepareStatementsInDatabase, p.name ≠ name) :
    execPrepared server name params db = .error (.unknownStatement name) := by
  have hnone : (prepareStatementsInDatabase.find? fun p => p.name == name) = none := by
    apply List.find?_eq_none.mpr
    intro p hp
    simpa using h p hp
  rw [execPrepared, hnone]

end HelpCovid.Database
