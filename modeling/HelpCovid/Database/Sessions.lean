import HelpCovid.Database.Schema

/-!
# The session routines

`open_session`, `close_session`, `ping_session` and `is_session_valid`, with
one lemma each for what a call does. Their arguments are not null: with a null
argument each of them raises.
-/

namespace HelpCovid.Database

open Plpgsql

/-- The constraints of `tb_session` on a new row. -/
def checkSession (db : Tables) (row : SessionRow) : Except SqlError Unit :=
  if db.tbSession.any fun r => r.id == row.id then .error (.unique "id")
  else if db.tbUser.any fun u => u.userId == row.userId then .ok ()
  else .error (.foreignKey "user_id")

/-- `open_session`; `freshId` is what `gen_random_uuid()` returns. -/
def openSession (freshId : Uuid) (pUser : Int) (pHttpUa : Text) (pIp : Inet) :
    Proc Tables Uuid :=
  block
    (do
      let now ← currentTime
      tbSession.insert checkSession ⟨freshId, pUser, pHttpUa, pIp, now, now + oneHour⟩
      return freshId)
    fun
      -- a duplicate id is not caught
      | .foreignKey _ => some (raise "user not found with ID: %" [.int pUser])
      | _ => none

/-- `close_session` -/
def closeSession (pSession : Uuid) : Proc Tables Unit := do
  let now ← currentTime
  tbSession.update (fun row => row.id == pSession) fun row => { row with expiry := now }
  if ← isFound then return ()
  else raise "session not found with ID: %" [.uuid pSession]

/-- `ping_session` -/
def pingSession (pSession : Uuid) : Proc Tables Unit := do
  let vExpiry ← assign fun db =>
    (db.tbSession.filter fun row => row.id == pSession).map SessionRow.expiry
  -- `FOUND` as the assignment left it
  if ← isFound then
    let now ← currentTime
    -- with a null `v_expiry` the comparison is null and the branch is not taken
    if vExpiry.any fun expiry => expiry < now then
      raise "session already closed for ID: %" [.uuid pSession]
    else
      tbSession.update (fun row => row.id == pSession)
        fun row => { row with expiry := now + oneHour }
  else raise "session not found with ID: %" [.uuid pSession]

/-- `is_session_valid` -/
def isSessionValid (pSession : Uuid) (pHttpUa : Text) (pIp : Inet) : Proc Tables Bool := do
  let now ← currentTime
  -- the condition asks for a session that has expired
  bareSelect fun db => db.tbSession.filter fun row =>
    row.id == pSession && row.httpUa == pHttpUa && row.ip == pIp && decide (row.expiry < now)
  if ← isFound then return true
  else return false

/-! ## What a call does -/

theorem checkSession_eq_ok_iff {db : Tables} {row : SessionRow} :
    checkSession db row = .ok () ↔
      (∀ r ∈ db.tbSession, r.id ≠ row.id) ∧ ∃ u ∈ db.tbUser, u.userId = row.userId := by
  unfold checkSession
  split_ifs with hid huser
  · simp only [List.any_eq_true, beq_iff_eq] at hid
    simpa using fun hfree => absurd hid (by simpa using hfree)
  · simpa using ⟨by simpa using hid, by simpa using huser⟩
  · simpa using fun _ => by simpa using huser

theorem call_isSessionValid (id : Uuid) (ua : Text) (ip : Inet) (now : Timestamp) (db : Tables) :
    call (isSessionValid id ua ip) now db = .error .noDestination := by
  unfold isSessionValid
  rw [call_currentTime]
  exact call_bareSelect _ _ now db

/-- A ping raises whatever the table holds. -/
theorem call_pingSession (id : Uuid) (now : Timestamp) (db : Tables) :
    ∃ e, call (pingSession id) now db = .error e :=
  ⟨_, call_assign_isFound _ _ _ _ now db⟩

theorem call_closeSession (id : Uuid) (now : Timestamp) (db : Tables) :
    call (closeSession id) now db =
      if db.tbSession.any fun row => row.id == id then
        .ok ((), { db with
          tbSession := db.tbSession.map fun row =>
            if row.id == id then { row with expiry := now } else row })
      else .error (.raised "session not found with ID: %" [.uuid id]) := by
  unfold closeSession
  rw [call_currentTime]
  exact call_update_isFound tbSession (fun row => row.id == id)
    (fun row => { row with expiry := now }) _ _ now db

/-- A session is opened for an existing user under an id that is free. -/
theorem call_openSession_eq_ok_iff {freshId result : Uuid} {user : Int} {ua : Text} {ip : Inet}
    {now : Timestamp} {db db' : Tables} :
    call (openSession freshId user ua ip) now db = .ok (result, db') ↔
      (∀ row ∈ db.tbSession, row.id ≠ freshId) ∧ (∃ u ∈ db.tbUser, u.userId = user) ∧
        result = freshId ∧
        db' = { db with
          tbSession := db.tbSession ++ [⟨freshId, user, ua, ip, now, now + oneHour⟩] } := by
  refine (call_block_insert_eq_ok_iff ?_).trans ?_
  · -- the handler only gives a missing user a better message
    intro e h hh
    cases e <;> cases hh
    exact ⟨_, rfl⟩
  · rw [checkSession_eq_ok_iff, and_assoc]
    rfl

end HelpCovid.Database
