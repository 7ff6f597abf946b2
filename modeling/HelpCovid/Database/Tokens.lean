import HelpCovid.Database.Users

/-!
# E-mail confirmations

What `verify_email_token` and `get_email_verification_token` are for, and what a
call of them does. Both read `tb_email_confirmation` by names that are not those
of its columns, and stop there: the three `UPDATE`s without a `WHERE`, the
comparison of `expires` and the `RETURN` before the insertion are not reached.
-/

namespace HelpCovid.Database

open Plpgsql

/-- The confirmation of a user; the first one, when there are several. -/
def confirmationOf (db : Tables) (userId : Int) : Option EmailConfirmationRow :=
  db.tbEmailConfirmation.find? fun c => c.confirmUserid == userId

/-! ## `verify_email_token` -/

/-- The status that a token earns. -/
def verdict (now : Timestamp) (token : Uuid) (c : EmailConfirmationRow) : Status :=
  if c.confirmExpiry ≤ now then .expired
  else if c.confirmToken = token then .verified
  else .rejected

/-- What the other users have is what they had. -/
structure OthersUnchanged (userId : Int) (db db' : Tables) : Prop where
  users : db'.tbUser.filter (fun u => u.userId != userId) =
    db.tbUser.filter fun u => u.userId != userId
  confirmations : db'.tbEmailConfirmation.filter (fun c => c.confirmUserid != userId) =
    db.tbEmailConfirmation.filter fun c => c.confirmUserid != userId

/-- A verification does what it is for. -/
structure VerifyCorrect (userId : Int) (token : Uuid) (now : Timestamp) (db : Tables) : Prop where
  settled : ∀ c, confirmationOf db userId = some c → ∃ result db',
    call (verifyEmailToken userId token) now db = .ok (result, db') ∧
      (∀ u ∈ db'.tbUser, u.userId = userId → u.userStatus = verdict now token c) ∧
      (verdict now token c = .verified → confirmationOf db' userId = none)
  raises : confirmationOf db userId = none →
    ∃ e, call (verifyEmailToken userId token) now db = .error e
  others : OthersUnchanged userId db (after (verifyEmailToken userId token) now db)

/-- The first query fails. -/
theorem call_verifyEmailToken (userId : Int) (token : Uuid) (now : Timestamp) (db : Tables) :
    call (verifyEmailToken userId token) now db = .error (.undefinedColumn "expiry") := rfl

/-- **Exactness.** Where there is nothing to verify the routine raises as it should. -/
theorem verifyCorrect_iff (userId : Int) (token : Uuid) (now : Timestamp) (db : Tables) :
    VerifyCorrect userId token now db ↔ confirmationOf db userId = none := by
  have hcall := call_verifyEmailToken userId token now db
  constructor
  · intro hcorrect
    cases hconf : confirmationOf db userId with
    | none => rfl
    | some c =>
      rcases hcorrect.settled c hconf with ⟨result, db', hok, -⟩
      exact absurd hok (call_ne_ok hcall _)
  · intro hnone
    refine ⟨?_, fun _ => ⟨_, hcall⟩, ?_⟩
    · intro c hsome
      rw [hnone] at hsome
      cases hsome
    · rw [after_of_error hcall]
      exact ⟨rfl, rfl⟩

/-- A user with a token that is good for another hour. -/
def pendingUser : Tables :=
  ⟨[⟨1, "Ada".toList, "Low".toList, "ada@low.org".toList, "1".toList, .female, .pending, none⟩],
    [], [⟨1, 1, 7, oneHour⟩], []⟩

/-- The token is not accepted. -/
theorem verifyEmailToken_pendingUser :
    call (verifyEmailToken 1 7) 0 pendingUser = .error (.undefinedColumn "expiry") ∧
      verdict 0 7 ⟨1, 1, 7, oneHour⟩ = .verified ∧
      ¬ VerifyCorrect 1 7 0 pendingUser := by
  refine ⟨rfl, by decide, ?_⟩
  intro hcorrect
  rcases hcorrect.settled ⟨1, 1, 7, oneHour⟩ rfl with ⟨result, db', hok, -⟩
  exact absurd hok (call_ne_ok (call_verifyEmailToken 1 7 0 pendingUser) _)

/-! ## `get_email_verification_token` -/

/-- There is a user with this id. -/
def KnownUser (db : Tables) (userId : Int) : Prop := ∃ u ∈ db.tbUser, u.userId = userId

/-- A token is handed out as it should be; `freshToken` is what `gen_random_uuid`
gives. -/
structure TokenCorrect (userId : Int) (freshToken : Uuid) (now : Timestamp) (db : Tables) :
    Prop where
  unknown : ¬ KnownUser db userId →
    (∃ e, call (getEmailVerificationToken userId freshToken) now db = .error e) ∧
      after (getEmailVerificationToken userId freshToken) now db = db
  existing : KnownUser db userId → ∀ c, confirmationOf db userId = some c →
    call (getEmailVerificationToken userId freshToken) now db = .ok (c.confirmToken, db)
  fresh : KnownUser db userId → confirmationOf db userId = none → ∃ row : EmailConfirmationRow,
    row.confirmUserid = userId ∧ row.confirmToken = freshToken ∧
      call (getEmailVerificationToken userId freshToken) now db =
        .ok (freshToken, { db with tbEmailConfirmation := db.tbEmailConfirmation ++ [row] })
  stable : ∀ token db', call (getEmailVerificationToken userId freshToken) now db =
      .ok (token, db') →
    ∀ freshToken' now', call (getEmailVerificationToken userId freshToken') now' db' =
      .ok (token, db')

/-- The test of the user lets everyone pass: `check_id` is the id or a null. The
query of the token fails. -/
theorem call_getEmailVerificationToken (userId : Int) (freshToken : Uuid) (now : Timestamp)
    (db : Tables) :
    call (getEmailVerificationToken userId freshToken) now db =
      .error (.undefinedColumn "token") := by
  have hpass : (((db.tbUser.filter fun u => u.userId == userId).map UserRow.userId).head?.any
      fun id => !(id == userId)) = false := by
    rw [Option.any_eq_false]
    intro id hid
    rcases List.mem_map.mp (List.mem_of_mem_head? hid) with ⟨u, hu, rfl⟩
    simpa using (List.mem_filter.mp hu).2
  simp only [call, getEmailVerificationToken, bind, StateT.bind, Except.bind, selectInto, hpass]
  rfl

/-- **Exactness.** Only where there is no such user does the routine answer as it
should, by raising. -/
theorem tokenCorrect_iff (userId : Int) (freshToken : Uuid) (now : Timestamp) (db : Tables) :
    TokenCorrect userId freshToken now db ↔ ¬ KnownUser db userId := by
  have hcall := call_getEmailVerificationToken userId freshToken now db
  constructor
  · intro hcorrect hknown
    cases hconf : confirmationOf db userId with
    | none =>
      rcases hcorrect.fresh hknown hconf with ⟨row, -, -, hok⟩
      exact absurd hok (call_ne_ok hcall _)
    | some c => exact absurd (hcorrect.existing hknown c hconf) (call_ne_ok hcall _)
  · intro hunknown
    refine ⟨fun _ => ⟨⟨_, hcall⟩, after_of_error hcall⟩, fun hknown => absurd hknown hunknown,
      fun hknown => absurd hknown hunknown, ?_⟩
    intro token db' hok
    exact absurd hok (call_ne_ok hcall _)

/-- The user with a token does not get it. -/
theorem getEmailVerificationToken_pendingUser :
    call (getEmailVerificationToken 1 9) 0 pendingUser = .error (.undefinedColumn "token") ∧
      ¬ TokenCorrect 1 9 0 pendingUser := by
  have hcall := call_getEmailVerificationToken 1 9 0 pendingUser
  refine ⟨hcall, ?_⟩
  intro hcorrect
  have hok := hcorrect.existing ⟨_, List.mem_cons_self, rfl⟩ ⟨1, 1, 7, oneHour⟩ rfl
  exact absurd hok (call_ne_ok hcall _)

end HelpCovid.Database
