import HelpCovid.Database.Users

/-!
# Registration

What `create_new_user` is for, and what a call of it does. The two insertions go
through for a new e-mail whose row fits the columns; the `RETURN` after them
names a column that does not exist, and with it the whole call is undone.
-/

namespace HelpCovid.Database

open Plpgsql

/-- The values fit the columns of `tb_user`. -/
structure Fits (p : NewUser) : Prop where
  firstname : p.pFirstname.length ≤ 31
  familyname : p.pFamilyname.length ≤ 62
  email : p.pEmail.length ≤ 71
  telephone : p.pTelephone.length ≤ 23

/-- The row has the given fields. -/
structure HasFields (p : NewUser) (u : UserRow) : Prop where
  firstname : u.userFirstname = p.pFirstname
  familyname : u.userFamilyname = p.pFamilyname
  email : u.userEmail = p.pEmail
  telephone : u.userTelephone = p.pTelephone
  gender : u.userGender = p.pGender

variable (crypt : Text → Text → Text) (userId passwId : Int) (salt : Text) (p : NewUser)
  (now : Timestamp) (db : Tables)

/-- A registration does what it is for: all of it or nothing, and all of it where
it can. -/
structure CreateCorrect : Prop where
  atomic :
    ((∃ e, call (createNewUser crypt userId passwId salt p) now db = .error e) ∧
      after (createNewUser crypt userId passwId salt p) now db = db) ∨
    ∃ id u pw, call (createNewUser crypt userId passwId salt p) now db =
        .ok (id, { db with tbUser := db.tbUser ++ [u], tbPassword := db.tbPassword ++ [pw] }) ∧
      HasFields p u ∧ u.userId = id ∧ pw.passwUserid = id
  total : ¬ KnownEmail db p.pEmail → Fits p →
    ∃ r, call (createNewUser crypt userId passwId salt p) now db = .ok r
  raises : KnownEmail db p.pEmail →
    ∃ e, call (createNewUser crypt userId passwId salt p) now db = .error e

/-! ## How far a call gets -/

variable {crypt userId passwId salt p now db}

/-- The row that the first statement inserts. -/
def insertedUser (userId : Int) (p : NewUser) (now : Timestamp) : UserRow :=
  ⟨userId, p.pFirstname, p.pFamilyname, p.pEmail, p.pTelephone, p.pGender, .pending, some now⟩

/-- The database after the first statement. -/
def withUser (userId : Int) (p : NewUser) (now : Timestamp) (db : Tables) : Tables :=
  { db with tbUser := db.tbUser ++ [insertedUser userId p now] }

/-- The first insertion goes through, for values that fit and a new id. -/
theorem insert_insertedUser (hid : ∀ u ∈ db.tbUser, u.userId ≠ userId) :
    tbUser.insert checkUser (insertedUser userId p now) ⟨db, now, false⟩ =
      .ok ((), ⟨withUser userId p now db, now, true⟩) := by
  have hcheck : checkUser db (insertedUser userId p now) = .ok () := by
    have hany : ¬ (db.tbUser.any fun u => u.userId == userId) = true := by
      rw [List.any_eq_true]
      rintro ⟨u, hu, heq⟩
      exact hid u hu (beq_iff_eq.mp heq)
    exact if_neg hany
  simp only [Table.insert, hcheck]
  rfl

/-- The users with the e-mail, after the first insertion. -/
theorem filter_withUser :
    (withUser userId p now db).tbUser.filter (fun u => u.userEmail == p.pEmail) =
      db.tbUser.filter (fun u => u.userEmail == p.pEmail) ++ [insertedUser userId p now] := by
  simp [withUser, insertedUser, List.filter_append]

/-- For a new e-mail everything but the last statement goes through. -/
theorem call_createNewUser_of_new (hfits : Fits p) (hnew : ¬ KnownEmail db p.pEmail)
    (hid : ∀ u ∈ db.tbUser, u.userId ≠ userId)
    (hpassw : ∀ pw ∈ db.tbPassword, pw.passwId ≠ passwId) :
    call (createNewUser crypt userId passwId salt p) now db = .error (.undefinedColumn "_email") := by
  have hone : ((withUser userId p now db).tbUser.filter fun u => u.userEmail == p.pEmail).map
      UserRow.userId = [userId] := by
    have hnil : (db.tbUser.filter fun u => u.userEmail == p.pEmail) = [] := by
      rw [List.filter_eq_nil_iff]
      intro u hu heq
      exact hnew ⟨u, hu, beq_iff_eq.mp heq⟩
    rw [filter_withUser, hnil]
    rfl
  have hcheck : ∀ encr, checkPassword (withUser userId p now db) ⟨passwId, userId, encr, some now⟩ =
      .ok () := by
    intro encr
    have hany : ¬ (db.tbPassword.any fun pw => pw.passwId == passwId) = true := by
      rw [List.any_eq_true]
      rintro ⟨pw, hpw, heq⟩
      exact hpassw pw hpw (beq_iff_eq.mp heq)
    exact if_neg hany
  have hinsert := @insert_insertedUser userId p now db hid
  simp only [insertedUser] at hinsert
  simp only [call, createNewUser, currentTime, varchar, if_pos hfits.firstname,
    if_pos hfits.familyname, if_pos hfits.email, if_pos hfits.telephone, bind, StateT.bind,
    Except.bind, hinsert, assign, hone]
  simp only [Table.insert, hcheck]
  rfl

/-- **Exactness.** A registration is as it should be where it should fail. -/
theorem createCorrect_iff (crypt : Text → Text → Text) (userId passwId : Int) (salt : Text)
    (p : NewUser) (now : Timestamp) (db : Tables) :
    CreateCorrect crypt userId passwId salt p now db ↔ KnownEmail db p.pEmail ∨ ¬ Fits p := by
  rcases call_of_raises (raises_createNewUser crypt userId passwId salt p) now db with ⟨e, hcall⟩
  constructor
  · intro hcorrect
    by_contra hneither
    rw [not_or, not_not] at hneither
    rcases hcorrect.total hneither.1 hneither.2 with ⟨r, hok⟩
    exact absurd hok (call_ne_ok hcall r)
  · intro hfail
    refine ⟨Or.inl ⟨⟨e, hcall⟩, after_of_error hcall⟩, ?_, fun _ => ⟨e, hcall⟩⟩
    intro hnew hfits
    exact absurd hfits (hfail.resolve_left hnew)

/-- A first user. -/
def firstUser : NewUser :=
  ⟨"ada@low.org".toList, "secret".toList, "Ada".toList, "Low".toList, "1".toList, .female⟩

/-- The first registration of all fails. -/
theorem createNewUser_firstUser :
    call (createNewUser (fun passwd _ => passwd) 1 1 [] firstUser) 0 ⟨[], [], [], []⟩ =
        .error (.undefinedColumn "_email") ∧
      ¬ CreateCorrect (fun passwd _ => passwd) 1 1 [] firstUser 0 ⟨[], [], [], []⟩ := by
  have hfits : Fits firstUser := ⟨by decide, by decide, by decide, by decide⟩
  have hnew : ¬ KnownEmail ⟨[], [], [], []⟩ firstUser.pEmail := by
    rintro ⟨u, hu, -⟩
    cases hu
  have hcall := @call_createNewUser_of_new (fun passwd _ => passwd) 1 1 [] firstUser 0
    ⟨[], [], [], []⟩ hfits hnew (by simp) (by simp)
  refine ⟨hcall, ?_⟩
  intro hcorrect
  rcases hcorrect.total hnew hfits with ⟨r, hok⟩
  exact absurd hok (call_ne_ok hcall r)

end HelpCovid.Database
