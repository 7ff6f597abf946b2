import HelpCovid.Database.Prepared

/-!
# Logging in

`hcv_user_model_authenticate` against what a login should answer. The function
`crypt` of pgcrypto is a parameter.
-/

namespace HelpCovid.Database

/-- `hcv_user_model_authenticate` -/
def userModelAuthenticate (server : Server) (email passwd : Text) :
    StateT Tables (Except PqxxError) Bool := do
  -- the name lacks the suffix it was prepared with
  let stmt := (PreparedStatement.new "user_get_password_by_email").bind email
  let res ← stmt.query server
  let stored ← asString res.head? 0
  return stored == passwd

/-- The statement is prepared under `user_get_password_by_email_pstm`. -/
theorem userModelAuthenticate_eq (server : Server) (email passwd : Text) (db : Tables) :
    userModelAuthenticate server email passwd db =
      .error (.unknownStatement "user_get_password_by_email") := by
  have hname : ∀ p ∈ prepareStatementsInDatabase, p.name ≠ "user_get_password_by_email" := by
    decide
  have hquery := execPrepared_of_unknown server [email] db hname
  simp only [userModelAuthenticate, bind, StateT.bind, PreparedStatement.query,
    PreparedStatement.new, PreparedStatement.bind, List.nil_append, hquery]
  rfl

/-! ## What a login should answer -/

variable (crypt : Text → Text → Text)

/-- What `create_new_user` stores for a password; `salt` is what `gen_salt('md5')`
returns. -/
def encryptNewPassword (salt passwd : Text) : Text := crypt passwd salt

/-- The order of `ORDER BY passw_mtime`, where a null comes last. -/
def notLaterThan : Option Timestamp → Option Timestamp → Prop
  | _, none => True
  | none, some _ => False
  | some a, some b => a ≤ b

/-- The most recently modified row of a user. -/
structure IsCurrentPassword (db : Tables) (userId : Int) (row : PasswordRow) : Prop where
  mem : row ∈ db.tbPassword
  userId_eq : row.passwUserid = userId
  latest : ∀ r ∈ db.tbPassword, r.passwUserid = userId → notLaterThan r.passwMtime row.passwMtime

def KnownEmail (db : Tables) (email : Text) : Prop := ∃ u ∈ db.tbUser, u.userEmail = email

/-- The password is the current one of a user with this e-mail. -/
def RightPassword (db : Tables) (email passwd : Text) : Prop :=
  ∃ u ∈ db.tbUser, u.userEmail = email ∧
    ∃ row, IsCurrentPassword db u.userId row ∧ crypt passwd row.passwEncr = row.passwEncr

/-- A login answers as it should. -/
structure LoginCorrect (server : Server) (db : Tables) (email passwd : Text) : Prop where
  true_iff : (∃ db', userModelAuthenticate server email passwd db = .ok (true, db')) ↔
    RightPassword crypt db email passwd
  false_of_unknown : ¬ KnownEmail db email →
    ∃ db', userModelAuthenticate server email passwd db = .ok (false, db')
  /-- the stored text is not itself a password -/
  encrypted_refused : ∀ row ∈ db.tbPassword, ¬ RightPassword crypt db email row.passwEncr →
    ∀ db', userModelAuthenticate server email row.passwEncr db ≠ .ok (true, db')
  stored_form : ∀ salt, crypt passwd (encryptNewPassword crypt salt passwd) =
    encryptNewPassword crypt salt passwd

/-! ## A user with a password -/

/-- The setting of an MD5 hash: `$1$` and a salt of at most eight characters. -/
def md5Setting (setting : Text) : Text :=
  "$1$".toList ++ ((setting.drop 3).takeWhile (· ≠ '$')).take 8

/-- The hashes of two passwords with the salt `saltsalt`. -/
def md5Hash (p setting : Text) : Text :=
  if setting = "$1$saltsalt".toList then
    if p = "secret".toList then "9xy1btjgzLYfb7hivXtC//".toList
    else if p = "guess".toList then "4Hq4R8gOVwoeSrW1ZOsAC.".toList
    else []
  else []

/-- `crypt` with MD5, as far as these hashes are concerned. -/
def md5Crypt (p setting : Text) : Text :=
  md5Setting setting ++ '$' :: md5Hash p (md5Setting setting)

theorem md5Setting_md5Crypt (p setting : Text) :
    md5Setting (md5Crypt p setting) = md5Setting setting := by
  have hsalt : ∀ c ∈ ((setting.drop 3).takeWhile (· ≠ '$')).take 8, decide (c ≠ '$') = true := by
    intro c hc
    exact List.mem_takeWhile_imp (p := fun c => decide (c ≠ '$')) (List.mem_of_mem_take hc)
  have hdrop : (md5Crypt p setting).drop 3 =
      ((setting.drop 3).takeWhile (· ≠ '$')).take 8 ++ '$' :: md5Hash p (md5Setting setting) := rfl
  -- the salt has no `$`, so it is read up to the `$` that `md5Crypt` puts behind it
  have hread : ((md5Crypt p setting).drop 3).takeWhile (· ≠ '$') =
      ((setting.drop 3).takeWhile (· ≠ '$')).take 8 := by
    rw [hdrop, List.takeWhile_append_of_pos hsalt]
    simp
  rw [md5Setting, hread, List.take_take, min_self, md5Setting]

theorem md5Crypt_md5Crypt (p salt : Text) : md5Crypt p (md5Crypt p salt) = md5Crypt p salt := by
  rw [md5Crypt, md5Setting_md5Crypt, md5Crypt]

/-- The user has the password `secret`. -/
def oneLogin : Tables where
  tbUser := [⟨1, "first".toList, "family".toList, "user@example.org".toList, [], .undisclosed,
    .pending, some 0⟩]
  tbPassword := [⟨1, 1, "$1$saltsalt$9xy1btjgzLYfb7hivXtC//".toList, some 0⟩]
  tbEmailConfirmation := []
  tbSession := []

/-- A server without rows. -/
def noRows : Server := fun _ _ db => .ok ([], db)

theorem isCurrentPassword_oneLogin :
    IsCurrentPassword oneLogin 1 ⟨1, 1, "$1$saltsalt$9xy1btjgzLYfb7hivXtC//".toList, some 0⟩ := by
  refine ⟨List.mem_singleton_self _, rfl, ?_⟩
  intro r hr _
  rcases List.mem_singleton.mp hr with rfl
  exact Int.le_refl 0

/-- The right password does not log the user in. -/
theorem loginCorrect_fails_on_right_password :
    ¬ LoginCorrect md5Crypt noRows oneLogin "user@example.org".toList "secret".toList := by
  intro hcorrect
  have hright : RightPassword md5Crypt oneLogin "user@example.org".toList "secret".toList :=
    ⟨_, List.mem_singleton_self _, rfl, _, isCurrentPassword_oneLogin, by decide⟩
  rcases hcorrect.true_iff.mpr hright with ⟨db', hok⟩
  rw [userModelAuthenticate_eq] at hok
  cases hok

/-- **Logging in.** No login gets an answer, so the answers are the right ones
exactly for a known e-mail with a wrong password. -/
theorem loginCorrect_iff (server : Server)
    (hcrypt : ∀ p salt, crypt p (crypt p salt) = crypt p salt)
    (db : Tables) (email passwd : Text) :
    (∀ result, userModelAuthenticate server email passwd db ≠ .ok result) ∧
      (LoginCorrect crypt server db email passwd ↔
        KnownEmail db email ∧ ¬ RightPassword crypt db email passwd) := by
  have hanswer : ∀ p result, userModelAuthenticate server email p db ≠ .ok result := by
    intro p result hok
    rw [userModelAuthenticate_eq] at hok
    cases hok
  refine ⟨hanswer passwd, ?_⟩
  constructor
  · intro hcorrect
    constructor
    · -- an unknown e-mail would have to be answered
      by_contra hunknown
      rcases hcorrect.false_of_unknown hunknown with ⟨db', hok⟩
      exact hanswer passwd _ hok
    · intro hright
      rcases hcorrect.true_iff.mpr hright with ⟨db', hok⟩
      exact hanswer passwd _ hok
  · rintro ⟨hknown, hwrong⟩
    constructor
    · constructor
      · rintro ⟨db', hok⟩
        exact absurd hok (hanswer passwd _)
      · intro hright
        exact absurd hright hwrong
    · intro hunknown
      exact absurd hknown hunknown
    · intro row _ _ db'
      exact hanswer row.passwEncr _
    · intro salt
      exact hcrypt passwd salt

/-- The answer to a wrong password. -/
theorem loginCorrect_iff_oneLogin :
    (∀ result, userModelAuthenticate noRows "user@example.org".toList "guess".toList oneLogin ≠
        .ok result) ∧
      (LoginCorrect md5Crypt noRows oneLogin "user@example.org".toList "guess".toList ↔
        KnownEmail oneLogin "user@example.org".toList ∧
          ¬ RightPassword md5Crypt oneLogin "user@example.org".toList "guess".toList) :=
  loginCorrect_iff md5Crypt noRows md5Crypt_md5Crypt oneLogin "user@example.org".toList
    "guess".toList

end HelpCovid.Database
