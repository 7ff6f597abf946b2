import HelpCovid.Lib.CText
import HelpCovid.Lib.Plpgsql

/-!
# The tables of HelpCovid

The rows of the tables that `hcv_initialize_database` creates for users,
passwords, e-mail confirmations and sessions. Timestamps count microseconds. A
nullable column is an `Option`; the others are `NOT NULL`.
-/

namespace HelpCovid.Database

/-- A timestamp, in microseconds. -/
abbrev Timestamp := Int

/-- `interval '1 hour'` -/
def oneHour : Int := 3600 * 1000000

/-- `UUID` -/
abbrev Uuid := BitVec 128

/-- `INET`: the family, the address and the length of the network part. -/
structure Inet where
  isV6 : Bool
  address : BitVec 128
  masklen : Nat
deriving Repr, DecidableEq

/-- `en_gender` -/
inductive Gender where
  | male
  | female
  | other
  | undisclosed
deriving Repr, DecidableEq

/-- `en_status` -/
inductive Status where
  | rejected
  | expired
  | pending
  | verified
deriving Repr, DecidableEq

/-- A row of `tb_user`. -/
structure UserRow where
  userId : Int
  userFirstname : Text
  userFamilyname : Text
  userEmail : Text
  userTelephone : Text
  userGender : Gender
  userStatus : Status
  userCrtime : Option Timestamp
deriving Repr, DecidableEq

/-- A row of `tb_password`. -/
structure PasswordRow where
  passwId : Int
  passwUserid : Int
  passwEncr : Text
  passwMtime : Option Timestamp
deriving Repr, DecidableEq

/-- A row of `tb_email_confirmation`. -/
structure EmailConfirmationRow where
  confirmId : Int
  confirmUserid : Int
  confirmToken : Uuid
  confirmExpiry : Timestamp
deriving Repr, DecidableEq

/-- A row of `tb_session`. -/
structure SessionRow where
  id : Uuid
  userId : Int
  httpUa : Text
  ip : Inet
  start : Timestamp
  expiry : Timestamp
deriving Repr, DecidableEq

/-- The database. -/
structure Tables where
  tbUser : List UserRow
  tbPassword : List PasswordRow
  tbEmailConfirmation : List EmailConfirmationRow
  tbSession : List SessionRow
deriving Repr, DecidableEq

def tbSession : Plpgsql.Table Tables SessionRow where
  get db := db.tbSession
  set db rows := { db with tbSession := rows }
  get_set _ _ := rfl

end HelpCovid.Database
