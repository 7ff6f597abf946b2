import HelpCovid.Database.Login
import HelpCovid.Database.Sessions

/-!
# The routines on users

`create_new_user`, `verify_email_token`, `get_email_verification_token` and
`delete_dormant_users`. The first three name columns that their tables do not
have (PostgreSQL finds out when the statement is reached), so that none of their
calls succeeds. Sequences, `gen_salt` and `gen_random_uuid` are parameters, and
so is the calendar: `threeMonthsBefore t` is `t - interval '3 months'`.
-/

namespace HelpCovid.Database

open Plpgsql

def tbUser : Table Tables UserRow where
  get db := db.tbUser
  set db rows := { db with tbUser := rows }
  get_set _ _ := rfl

def tbPassword : Table Tables PasswordRow where
  get db := db.tbPassword
  set db rows := { db with tbPassword := rows }
  get_set _ _ := rfl

def tbEmailConfirmation : Table Tables EmailConfirmationRow where
  get db := db.tbEmailConfirmation
  set db rows := { db with tbEmailConfirmation := rows }
  get_set _ _ := rfl

/-- The primary key of `tb_user`. -/
def checkUser (db : Tables) (row : UserRow) : Except SqlError Unit :=
  if db.tbUser.any fun u => u.userId == row.userId then .error (.unique "user_id") else .ok ()

/-- The primary key of `tb_password`; no column of it refers to another table. -/
def checkPassword (db : Tables) (row : PasswordRow) : Except SqlError Unit :=
  if db.tbPassword.any fun p => p.passwId == row.passwId then .error (.unique "passw_id")
  else .ok ()

/-- The arguments of `create_new_user`. -/
structure NewUser where
  pEmail : Text
  pPassword : Text
  pFirstname : Text
  pFamilyname : Text
  pTelephone : Text
  pGender : Gender
deriving Repr, DecidableEq

/-- `create_new_user`; `userId` and `passwId` are the next values of the two
sequences, `salt` is `gen_salt('md5')`. -/
def createNewUser (crypt : Text → Text → Text) (userId passwId : Int) (salt : Text)
    (p : NewUser) : Proc Tables Int := do
  let now ← currentTime
  let firstname ← varchar 31 p.pFirstname
  let familyname ← varchar 62 p.pFamilyname
  let email ← varchar 71 p.pEmail
  let telephone ← varchar 23 p.pTelephone
  tbUser.insert checkUser
    ⟨userId, firstname, familyname, email, telephone, p.pGender, .pending, some now⟩
  let passwUserid ← assign fun db =>
    (db.tbUser.filter fun u => u.userEmail == p.pEmail).map UserRow.userId
  match passwUserid with
  | none => fun _ => .error (.notNull "passw_userid")
  | some passwUserid =>
      tbPassword.insert checkPassword
        ⟨passwId, passwUserid, encryptNewPassword crypt salt p.pPassword, some now⟩
      -- the argument is called `p_email`
      undefinedColumn "_email"

/-- `verify_email_token`. The columns of `tb_email_confirmation` are called
`confirm_expiry`, `confirm_userid` and `confirm_token`. -/
def verifyEmailToken (_userId : Int) (_token : Uuid) : Proc Tables Int := do
  let expires : Timestamp ← undefinedColumn "expiry"
  if !(← isFound) then raise "e-mail token not generated" []
  if expires ≥ (← currentTime) then undefinedFunction "get_status_id"
  let _checkId : Int ← undefinedColumn "user_id"
  -- the condition of the last `IF`, with an `UPDATE` in each branch
  undefinedColumn "_userid"

/-- `get_email_verification_token` -/
def getEmailVerificationToken (userId : Int) (freshToken : Uuid) : Proc Tables Uuid := do
  let checkId ← selectInto fun db =>
    (db.tbUser.filter fun u => u.userId == userId).map UserRow.userId
  -- with a null `check_id` the condition is null and the branch is not taken
  if checkId.any fun id => !(id == userId) then
    raise "user ID does not exist: %" [.int userId]
  let token : Uuid ← undefinedColumn "token"
  -- a `RETURN` stands before this
  if !(← isFound) then
    let _ : Unit ← undefinedColumn "user_id"
    return freshToken
  return token

/-- The expiry of the last session of a user to expire: `DISTINCT ON (user_id)` in
the order `user_id, expiry DESC`. -/
def latestExpiry (db : Tables) (userId : Int) : Option Timestamp :=
  ((db.tbSession.filter fun row => row.userId == userId).map SessionRow.expiry).max?

/-- The users that `delete_dormant_users` finds. -/
def isDormant (threeMonthsBefore : Timestamp → Timestamp) (db : Tables) (now : Timestamp)
    (userId : Int) : Bool :=
  (latestExpiry db userId).any fun expiry => decide (expiry < threeMonthsBefore now)

/-- `ON DELETE CASCADE` of `tb_email_confirmation` and `tb_session`; `tb_password`
does not refer to `tb_user`. -/
def cascadeUsers (deleted : List UserRow) (db : Tables) : Tables :=
  { db with
    tbEmailConfirmation := db.tbEmailConfirmation.filter fun c =>
      !deleted.any fun u => u.userId == c.confirmUserid
    tbSession := db.tbSession.filter fun row =>
      !deleted.any fun u => u.userId == row.userId }

/-- `delete_dormant_users`; the query is run before rows are deleted. -/
def deleteDormantUsers (threeMonthsBefore : Timestamp → Timestamp) : Proc Tables Unit :=
  fun f => (tbUser.delete cascadeUsers
    fun u => isDormant threeMonthsBefore f.db f.now u.userId) f

/-! ## What a call does -/

theorem raises_createNewUser (crypt : Text → Text → Text) (userId passwId : Int) (salt : Text)
    (p : NewUser) : Raises (createNewUser crypt userId passwId salt p) := by
  refine raises_bind _ fun now => raises_bind _ fun firstname => raises_bind _ fun familyname =>
    raises_bind _ fun email => raises_bind _ fun telephone => raises_bind _ fun _ =>
    raises_bind _ fun passwUserid => ?_
  cases passwUserid with
  | none => exact fun _ => ⟨_, rfl⟩
  | some id => exact raises_bind _ fun _ => raises_undefinedColumn _

theorem raises_verifyEmailToken (userId : Int) (token : Uuid) :
    Raises (verifyEmailToken userId token) :=
  (raises_undefinedColumn _).bind _

theorem raises_getEmailVerificationToken (userId : Int) (freshToken : Uuid) :
    Raises (getEmailVerificationToken userId freshToken) := by
  refine raises_bind _ fun checkId => ?_
  have hrest : Raises ((undefinedColumn "token" : Proc Tables Uuid) >>= fun token => do
      if !(← isFound) then
        let _ : Unit ← undefinedColumn "user_id"
        return freshToken
      return token) := (raises_undefinedColumn _).bind _
  simp only
  split
  · exact (raises_raise _ _).bind _
  · exact hrest

/-- A call deletes the dormant users with their sessions and confirmations. -/
theorem call_deleteDormantUsers (threeMonthsBefore : Timestamp → Timestamp) (now : Timestamp)
    (db : Tables) :
    call (deleteDormantUsers threeMonthsBefore) now db =
      .ok ((), { cascadeUsers
          (db.tbUser.filter fun u => isDormant threeMonthsBefore db now u.userId) db with
        tbUser := db.tbUser.filter fun u => !isDormant threeMonthsBefore db now u.userId }) := rfl

end HelpCovid.Database
