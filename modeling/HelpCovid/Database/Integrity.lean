import HelpCovid.Database.Users
import HelpCovid.Lib.Machine

/-!
# Referential integrity

The rows of `tb_password`, `tb_email_confirmation` and `tb_session` belong to
users. The last two tables declare it and follow the deletion of a user; the
first one does not.
-/

namespace HelpCovid.Database

open Plpgsql

/-- Every row refers to a user. -/
structure ReferencesOk (db : Tables) : Prop where
  passwords : ∀ p ∈ db.tbPassword, ∃ u ∈ db.tbUser, u.userId = p.passwUserid
  confirmations : ∀ c ∈ db.tbEmailConfirmation, ∃ u ∈ db.tbUser, u.userId = c.confirmUserid
  sessions : ∀ row ∈ db.tbSession, ∃ u ∈ db.tbUser, u.userId = row.userId

/-- A call of a stored routine, with what the call draws from sequences and
generators. -/
inductive RoutineCall where
  | createNewUser (userId passwId : Int) (salt : Text) (p : NewUser)
  | verifyEmailToken (userId : Int) (token : Uuid)
  | getEmailVerificationToken (userId : Int) (freshToken : Uuid)
  | openSession (freshId : Uuid) (pUser : Int) (pHttpUa : Text) (pIp : Inet)
  | pingSession (pSession : Uuid)
  | closeSession (pSession : Uuid)
  | deleteDormantUsers
deriving Repr, DecidableEq

section Calls

variable (crypt : Text → Text → Text) (threeMonthsBefore : Timestamp → Timestamp)

/-- The database after a call that succeeds. -/
def RoutineCall.run (now : Timestamp) (db : Tables) : RoutineCall → Except SqlError Tables
  | .createNewUser userId passwId salt p =>
      (call (Database.createNewUser crypt userId passwId salt p) now db).map Prod.snd
  | .verifyEmailToken userId token =>
      (call (Database.verifyEmailToken userId token) now db).map Prod.snd
  | .getEmailVerificationToken userId freshToken =>
      (call (Database.getEmailVerificationToken userId freshToken) now db).map Prod.snd
  | .openSession freshId pUser pHttpUa pIp =>
      (call (Database.openSession freshId pUser pHttpUa pIp) now db).map Prod.snd
  | .pingSession pSession => (call (Database.pingSession pSession) now db).map Prod.snd
  | .closeSession pSession => (call (Database.closeSession pSession) now db).map Prod.snd
  | .deleteDormantUsers =>
      (call (Database.deleteDormantUsers threeMonthsBefore) now db).map Prod.snd

/-- The call deletes no user who has a password. -/
def RoutineCall.KeepsPasswords (now : Timestamp) (db : Tables) : RoutineCall → Prop
  | .deleteDormantUsers =>
      ∀ p ∈ db.tbPassword, isDormant threeMonthsBefore db now p.passwUserid = false
  | _ => True

end Calls

/-! ## One routine after the other -/

section Routines

variable {threeMonthsBefore : Timestamp → Timestamp} {now : Timestamp} {db db' : Tables}

theorem not_ok_of_raises {α : Type} {p : Proc Tables α} (h : Raises p) (now : Timestamp)
    (db : Tables) :
    (call p now db).map Prod.snd ≠ .ok db' := by
  rcases call_of_raises h now db with ⟨e, he⟩
  rw [he]
  exact fun hok => absurd hok (by simp [Except.map])

/-- A new session refers to a user, for the foreign key was checked. -/
theorem ReferencesOk.openSession (h : ReferencesOk db) {freshId : Uuid} {pUser : Int}
    {pHttpUa : Text} {pIp : Inet}
    (hcall : (call (Database.openSession freshId pUser pHttpUa pIp) now db).map Prod.snd = .ok db') :
    ReferencesOk db' := by
  rcases Machine.ok_of_map hcall with ⟨r, hresult, rfl⟩
  rcases call_openSession_eq_ok_iff.mp hresult with ⟨-, huser, -, hdb⟩
  rw [hdb]
  refine ⟨h.passwords, h.confirmations, ?_⟩
  intro row hrow
  rcases List.mem_append.mp hrow with hrow | hrow
  · exact h.sessions row hrow
  · rcases List.mem_singleton.mp hrow with rfl
    exact huser

/-- Closing a session changes no reference. -/
theorem ReferencesOk.closeSession (h : ReferencesOk db) {pSession : Uuid}
    (hcall : (call (Database.closeSession pSession) now db).map Prod.snd = .ok db') :
    ReferencesOk db' := by
  rw [call_closeSession] at hcall
  split at hcall
  · obtain rfl := Except.ok.inj hcall
    refine ⟨h.passwords, h.confirmations, ?_⟩
    intro row hrow
    rcases List.mem_map.mp hrow with ⟨old, hold, rfl⟩
    rcases h.sessions old hold with ⟨u, hu, heq⟩
    refine ⟨u, hu, ?_⟩
    split <;> exact heq
  · exact absurd hcall (by simp [Except.map])

/-- A user that is left is one that was there and is not dormant. -/
theorem mem_remaining {u : UserRow} :
    u ∈ db.tbUser.filter (fun u => !isDormant threeMonthsBefore db now u.userId) ↔
      u ∈ db.tbUser ∧ isDormant threeMonthsBefore db now u.userId = false := by
  simp

/-- A row that follows its user is left only if its user is. -/
theorem not_dormant_of_cascade {u : UserRow} (hu : u ∈ db.tbUser)
    (h : (!(db.tbUser.filter fun u => isDormant threeMonthsBefore db now u.userId).any
      fun v => v.userId == u.userId) = true) :
    isDormant threeMonthsBefore db now u.userId = false := by
  by_contra hdormant
  rw [Bool.not_eq_false] at hdormant
  have hany : (db.tbUser.filter fun u => isDormant threeMonthsBefore db now u.userId).any
      (fun v => v.userId == u.userId) = true :=
    List.any_eq_true.mpr ⟨u, List.mem_filter.mpr ⟨hu, hdormant⟩, by simp⟩
  rw [hany] at h
  exact Bool.noConfusion h

/-- The deletion of dormant users keeps the references exactly when it deletes no
user with a password: the other two tables follow. -/
theorem ReferencesOk.deleteDormantUsers_iff (h : ReferencesOk db)
    (hcall : (call (Database.deleteDormantUsers threeMonthsBefore) now db).map Prod.snd = .ok db') :
    ReferencesOk db' ↔
      ∀ p ∈ db.tbPassword, isDormant threeMonthsBefore db now p.passwUserid = false := by
  rw [call_deleteDormantUsers] at hcall
  obtain rfl := Except.ok.inj hcall
  constructor
  · intro h' p hp
    rcases h'.passwords p hp with ⟨u, hu, heq⟩
    rw [← heq]
    exact (mem_remaining.mp hu).2
  · intro hkeep
    refine ⟨?_, ?_, ?_⟩
    · intro p hp
      rcases h.passwords p hp with ⟨u, hu, heq⟩
      exact ⟨u, mem_remaining.mpr ⟨hu, heq ▸ hkeep p hp⟩, heq⟩
    · intro c hc
      rcases List.mem_filter.mp hc with ⟨hc, hleft⟩
      rcases h.confirmations c hc with ⟨u, hu, heq⟩
      rw [← heq] at hleft
      exact ⟨u, mem_remaining.mpr ⟨hu, not_dormant_of_cascade hu hleft⟩, heq⟩
    · intro row hrow
      rcases List.mem_filter.mp hrow with ⟨hrow, hleft⟩
      rcases h.sessions row hrow with ⟨u, hu, heq⟩
      rw [← heq] at hleft
      exact ⟨u, mem_remaining.mpr ⟨hu, not_dormant_of_cascade hu hleft⟩, heq⟩

end Routines

/-- **Referential integrity.** A call that succeeds keeps the references exactly
when it deletes no user who has a password. -/
theorem referencesOk_run_iff (crypt : Text → Text → Text)
    {threeMonthsBefore : Timestamp → Timestamp} {now : Timestamp} {db db' : Tables}
    {c : RoutineCall} (h : ReferencesOk db)
    (hcall : c.run crypt threeMonthsBefore now db = .ok db') :
    ReferencesOk db' ↔ c.KeepsPasswords threeMonthsBefore now db := by
  cases c with
  | createNewUser userId passwId salt p =>
      exact absurd hcall (not_ok_of_raises (raises_createNewUser crypt userId passwId salt p) now db)
  | verifyEmailToken userId token =>
      exact absurd hcall (not_ok_of_raises (raises_verifyEmailToken userId token) now db)
  | getEmailVerificationToken userId freshToken =>
      exact absurd hcall
        (not_ok_of_raises (raises_getEmailVerificationToken userId freshToken) now db)
  | openSession freshId pUser pHttpUa pIp => exact iff_of_true (h.openSession hcall) True.intro
  | pingSession pSession =>
      rcases call_pingSession pSession now db with ⟨e, he⟩
      rw [RoutineCall.run, he] at hcall
      exact absurd hcall (by simp [Except.map])
  | closeSession pSession => exact iff_of_true (h.closeSession hcall) True.intro
  | deleteDormantUsers => exact h.deleteDormantUsers_iff hcall

/-! ## A dormant user -/

/-- A user whose only session expired long ago. -/
def dormantUser : Tables where
  tbUser := [⟨1, "first".toList, "last".toList, "user@example.org".toList, [], .undisclosed,
    .verified, none⟩]
  tbPassword := [⟨1, 1, "secret".toList, none⟩]
  tbEmailConfirmation := []
  tbSession := [⟨7, 1, [], ⟨false, 0, 32⟩, 0, oneHour⟩]

/-- The time long after. -/
def longAfter : Timestamp := 10000 * oneHour

/-- Three months of thirty days. -/
def ninetyDaysBefore (t : Timestamp) : Timestamp := t - 90 * 24 * oneHour

theorem referencesOk_dormantUser : ReferencesOk dormantUser := by
  constructor <;> simp [dormantUser]

theorem referencesOk_run_iff_dormantUser :
    ∃ db', RoutineCall.deleteDormantUsers.run (fun _ s => s) ninetyDaysBefore longAfter dormantUser =
        .ok db' ∧
      (ReferencesOk db' ↔
        RoutineCall.deleteDormantUsers.KeepsPasswords ninetyDaysBefore longAfter dormantUser) :=
  ⟨_, rfl, referencesOk_run_iff (fun _ s => s) referencesOk_dormantUser rfl⟩

/-- The user is deleted and the password stays. -/
theorem deleteDormantUsers_leaves_password :
    ReferencesOk dormantUser ∧
      ∃ db', RoutineCall.deleteDormantUsers.run (fun _ s => s) ninetyDaysBefore longAfter
          dormantUser = .ok db' ∧
        db'.tbUser = [] ∧ db'.tbPassword = dormantUser.tbPassword ∧ ¬ ReferencesOk db' := by
  refine ⟨referencesOk_dormantUser, _, rfl, by decide, rfl, ?_⟩
  intro h
  rcases h.passwords ⟨1, 1, "secret".toList, none⟩ (List.mem_singleton.mpr rfl) with ⟨u, hu, -⟩
  have hnone : u ∈ ([] : List UserRow) := by
    have hempty : (dormantUser.tbUser.filter fun u =>
        !isDormant ninetyDaysBefore dormantUser longAfter u.userId) = [] := by decide
    rw [← hempty]
    exact hu
  exact absurd hnone (by simp)

end HelpCovid.Database
