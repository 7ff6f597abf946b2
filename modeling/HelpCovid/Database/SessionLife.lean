import HelpCovid.Database.Sessions
import HelpCovid.Lib.Machine

/-!
# The life of a session

Runs of the session routines at times that do not decrease. The abstract side
reads the life of a session off the successful calls: who opened it, when it was
last active and whether it has been closed. `Mirrors` connects the two: the
column `expiry` means what the abstract side says, in every state a run reaches.
`sessionCorrect_iff` compares the answers of `is_session_valid` and `ping_session`
with it.
-/

namespace HelpCovid.Database.SessionLife

open Plpgsql

/-! ## The abstract side -/

/-- A successful call and its time. -/
inductive Event where
  | opened (id : Uuid) (ua : Text) (ip : Inet) (time : Timestamp)
  | pinged (id : Uuid) (time : Timestamp)
  | closed (id : Uuid) (time : Timestamp)
deriving Repr, DecidableEq

/-- `active` is the later of the opening and the last successful ping. -/
structure Session where
  ua : Text
  ip : Inet
  active : Timestamp
  isClosed : Bool
deriving Repr, DecidableEq

/-- The life of a session after the events of a log, the last event first. -/
def life (id : Uuid) : List Event → Option Session
  | [] => none
  | .opened id' ua ip time :: log =>
      if id' = id then some ⟨ua, ip, time, false⟩ else life id log
  | .pinged id' time :: log =>
      if id' = id then (life id log).map fun s => { s with active := max s.active time }
      else life id log
  | .closed id' _ :: log =>
      if id' = id then (life id log).map fun s => { s with isClosed := true }
      else life id log

/-- Neither closed nor idle for an hour at the given time. -/
def Session.Open (s : Session) (time : Timestamp) : Prop :=
  s.isClosed = false ∧ time < s.active + oneHour

/-- The session is open and unexpired. -/
def OpenUnexpired (log : List Event) (id : Uuid) (time : Timestamp) : Prop :=
  ∃ s, life id log = some s ∧ s.Open time

/-- The session is open and unexpired, and was opened with this user agent from this IP. -/
def Live (log : List Event) (id : Uuid) (ua : Text) (ip : Inet) (time : Timestamp) : Prop :=
  ∃ s, life id log = some s ∧ s.ua = ua ∧ s.ip = ip ∧ s.Open time

theorem Live.openUnexpired {log : List Event} {id : Uuid} {ua : Text} {ip : Inet}
    {time : Timestamp} (h : Live log id ua ip time) : OpenUnexpired log id time := by
  rcases h with ⟨s, hlife, -, -, hopen⟩
  exact ⟨s, hlife, hopen⟩

/-! ## Runs -/

/-- The database, the clock and the log of the successful calls. -/
structure Service where
  db : Tables
  clock : Timestamp
  log : List Event

/-- A call of a session routine, or `n` microseconds without one. -/
inductive Request where
  | openSession (freshId : Uuid) (user : Int) (ua : Text) (ip : Inet)
  | pingSession (id : Uuid)
  | closeSession (id : Uuid)
  | wait (n : Nat)

/-- A call changes the database as the routine does. It is logged when it does not raise. -/
def step (s : Service) : Request → Option Service
  | .openSession freshId user ua ip =>
      match call (openSession freshId user ua ip) s.clock s.db with
      | .ok (id, db') => some { s with db := db', log := .opened id ua ip s.clock :: s.log }
      | .error _ => some s
  | .pingSession id =>
      match call (pingSession id) s.clock s.db with
      | .ok ((), db') => some { s with db := db', log := .pinged id s.clock :: s.log }
      | .error _ => some s
  | .closeSession id =>
      match call (closeSession id) s.clock s.db with
      | .ok ((), db') => some { s with db := db', log := .closed id s.clock :: s.log }
      | .error _ => some s
  | .wait n => some { s with clock := s.clock + n }

/-- A service that has not yet opened a session. -/
structure Service.Initial (s : Service) : Prop where
  noSession : s.db.tbSession = []
  noEvent : s.log = []

/-- What a request can do. -/
theorem step_cases {s s' : Service} {r : Request} (h : step s r = some s') :
    (∃ freshId user ua ip, r = .openSession freshId user ua ip ∧
      (∀ row ∈ s.db.tbSession, row.id ≠ freshId) ∧
      s' = { s with
        db := { s.db with tbSession := s.db.tbSession ++
          [⟨freshId, user, ua, ip, s.clock, s.clock + oneHour⟩] }
        log := .opened freshId ua ip s.clock :: s.log }) ∨
    (∃ id, r = .closeSession id ∧
      s' = { s with
        db := { s.db with tbSession := s.db.tbSession.map fun row =>
          if row.id == id then { row with expiry := s.clock } else row }
        log := .closed id s.clock :: s.log }) ∨
    (∃ n, r = .wait n ∧ s' = { s with clock := s.clock + n }) ∨
    s' = s := by
  cases r with
  | openSession freshId user ua ip =>
      simp only [step] at h
      split at h
      · next id db' hcall =>
          rcases call_openSession_eq_ok_iff.mp hcall with ⟨hfree, -, rfl, rfl⟩
          exact Or.inl ⟨_, user, ua, ip, rfl, hfree, by simpa using h.symm⟩
      · exact Or.inr (Or.inr (Or.inr (by simpa using h.symm)))
  | pingSession id =>
      -- no ping is ever logged: the routine raises
      rcases call_pingSession id s.clock s.db with ⟨e, he⟩
      simp only [step, he] at h
      exact Or.inr (Or.inr (Or.inr (by simpa using h.symm)))
  | closeSession id =>
      simp only [step, call_closeSession] at h
      split_ifs at h with hany
      · exact Or.inr (Or.inl ⟨id, rfl, by simpa using h.symm⟩)
      · exact Or.inr (Or.inr (Or.inr (by simpa using h.symm)))
  | wait n => exact Or.inr (Or.inr (Or.inl ⟨n, rfl, by simpa [step] using h.symm⟩))

/-! ## The table mirrors the log -/

/-- A row of `tb_session` says what the life of its session says. -/
structure RowMirrors (clock : Timestamp) (row : SessionRow) (session : Session) : Prop where
  ua : session.ua = row.httpUa
  ip : session.ip = row.ip
  expiry_of_open : session.isClosed = false → row.expiry = session.active + oneHour
  expiry_of_closed : session.isClosed = true → row.expiry ≤ clock

/-- The rows of `tb_session` are the sessions of the log. -/
structure Mirrors (s : Service) : Prop where
  session_of_row : ∀ row ∈ s.db.tbSession,
    ∃ session, life row.id s.log = some session ∧ RowMirrors s.clock row session
  row_of_session : ∀ id session, life id s.log = some session →
    ∃ row ∈ s.db.tbSession, row.id = id

theorem Service.Initial.mirrors {s : Service} (h : s.Initial) : Mirrors s := by
  constructor
  · intro row hrow
    simp [h.noSession] at hrow
  · intro id session hlife
    simp [h.noEvent, life] at hlife

theorem RowMirrors.later {clock : Timestamp} {row : SessionRow} {session : Session}
    (h : RowMirrors clock row session) (n : Nat) : RowMirrors (clock + n) row session := by
  refine ⟨h.ua, h.ip, h.expiry_of_open, ?_⟩
  intro hclosed
  have hexpiry := h.expiry_of_closed hclosed
  exact Int.le_trans hexpiry (Int.le_add_of_nonneg_right (Int.natCast_nonneg n))

theorem Mirrors.step_open {s : Service} (h : Mirrors s) {freshId : Uuid} (user : Int) (ua : Text)
    (ip : Inet) (hfree : ∀ row ∈ s.db.tbSession, row.id ≠ freshId) :
    Mirrors { s with
      db := { s.db with tbSession := s.db.tbSession ++
        [⟨freshId, user, ua, ip, s.clock, s.clock + oneHour⟩] }
      log := .opened freshId ua ip s.clock :: s.log } := by
  constructor
  · intro row hrow
    rcases List.mem_append.mp hrow with hold | hnew
    · rcases h.session_of_row row hold with ⟨session, hlife, hmirrors⟩
      exact ⟨session, by rwa [life, if_neg (hfree row hold).symm], hmirrors⟩
    · rcases List.mem_singleton.mp hnew with rfl
      -- the new row, with the life that begins with it
      exact ⟨⟨ua, ip, s.clock, false⟩, by rw [life, if_pos rfl],
        ⟨rfl, rfl, fun _ => rfl, fun hclosed => by cases hclosed⟩⟩
  · intro id session hlife
    by_cases hid : freshId = id
    · exact ⟨_, List.mem_append_right _ (List.mem_singleton_self _), hid⟩
    · rw [life, if_neg hid] at hlife
      rcases h.row_of_session id session hlife with ⟨row, hrow, hrowid⟩
      exact ⟨row, List.mem_append_left _ hrow, hrowid⟩

theorem Mirrors.step_close {s : Service} (h : Mirrors s) (id : Uuid) :
    Mirrors { s with
      db := { s.db with tbSession := s.db.tbSession.map fun row =>
        if row.id == id then { row with expiry := s.clock } else row }
      log := .closed id s.clock :: s.log } := by
  constructor
  · intro row' hrow'
    rcases List.mem_map.mp hrow' with ⟨row, hrow, rfl⟩
    rcases h.session_of_row row hrow with ⟨session, hlife, hmirrors⟩
    by_cases hid : row.id = id
    · -- the closed session expires now
      subst hid
      refine ⟨{ session with isClosed := true }, ?_, ?_⟩
      · simp [life, hlife]
      · simpa using
          ⟨hmirrors.ua, hmirrors.ip, fun hopen => (by cases hopen), fun _ => Int.le_refl s.clock⟩
    · refine ⟨session, ?_, ?_⟩
      · simp only [beq_iff_eq, if_neg hid, life]
        rw [if_neg (fun heq => hid heq.symm), hlife]
      · simpa [hid] using hmirrors
  · intro id' session hlife
    have hsome : ∃ session', life id' s.log = some session' := by
      by_cases hid : id = id'
      · rw [life, if_pos hid] at hlife
        rcases Option.map_eq_some_iff.mp hlife with ⟨session', hsession', -⟩
        exact ⟨session', hsession'⟩
      · rw [life, if_neg hid] at hlife
        exact ⟨session, hlife⟩
    rcases hsome with ⟨session', hsession'⟩
    rcases h.row_of_session id' session' hsession' with ⟨row, hrow, hrowid⟩
    refine ⟨_, List.mem_map.mpr ⟨row, hrow, rfl⟩, ?_⟩
    split_ifs <;> exact hrowid

theorem Mirrors.step_wait {s : Service} (h : Mirrors s) (n : Nat) :
    Mirrors { s with clock := s.clock + n } := by
  refine ⟨?_, h.row_of_session⟩
  intro row hrow
  rcases h.session_of_row row hrow with ⟨session, hlife, hmirrors⟩
  exact ⟨session, hlife, hmirrors.later n⟩

theorem Mirrors.step {s s' : Service} {r : Request} (h : Mirrors s)
    (hstep : step s r = some s') : Mirrors s' := by
  rcases step_cases hstep with ⟨freshId, user, ua, ip, -, hfree, rfl⟩ | ⟨id, -, rfl⟩ |
    ⟨n, -, rfl⟩ | rfl
  · exact h.step_open user ua ip hfree
  · exact h.step_close id
  · exact h.step_wait n
  · exact h

/-- The table mirrors the log in every state a run reaches. -/
theorem mirrors_of_reaches {s₀ s : Service} (hinit : s₀.Initial)
    (hreach : Machine.Reaches step s₀ s) : Mirrors s :=
  hreach.invariant (fun _ _ _ h hstep => h.step hstep) hinit.mirrors

/-- A session is open and unexpired when its row expires after the time of the query. -/
theorem Mirrors.openUnexpired_iff {s : Service} (h : Mirrors s) (id : Uuid) :
    OpenUnexpired s.log id s.clock ↔
      ∃ row ∈ s.db.tbSession, row.id = id ∧ s.clock < row.expiry := by
  constructor
  · rintro ⟨session, hlife, hopen, hactive⟩
    rcases h.row_of_session id session hlife with ⟨row, hrow, rfl⟩
    rcases h.session_of_row row hrow with ⟨session', hlife', hmirrors⟩
    have heq : session' = session := Option.some.inj (hlife'.symm.trans hlife)
    subst heq
    exact ⟨row, hrow, rfl, (hmirrors.expiry_of_open hopen).symm ▸ hactive⟩
  · rintro ⟨row, hrow, rfl, hexpiry⟩
    rcases h.session_of_row row hrow with ⟨session, hlife, hmirrors⟩
    -- a closed session has expired when it was closed
    have hopen : session.isClosed = false := by
      by_contra hclosed
      have hpast := hmirrors.expiry_of_closed (by simpa using hclosed)
      exact Int.not_lt.mpr hpast hexpiry
    exact ⟨session, hlife, hopen, hmirrors.expiry_of_open hopen ▸ hexpiry⟩

/-! ## The answers -/

/-- What the routines should answer for a session, a user agent and an IP. -/
structure SessionCorrect (s : Service) (id : Uuid) (ua : Text) (ip : Inet) : Prop where
  valid_iff : (∃ db', call (isSessionValid id ua ip) s.clock s.db = .ok (true, db')) ↔
    Live s.log id ua ip s.clock
  ping_of_open : OpenUnexpired s.log id s.clock →
    ∃ db', call (pingSession id) s.clock s.db = .ok ((), db') ∧
      (∃ row ∈ db'.tbSession, row.id = id) ∧
      ∀ row ∈ db'.tbSession, row.id = id → row.expiry = s.clock + oneHour
  ping_of_not_open : ¬ OpenUnexpired s.log id s.clock →
    (∃ e, call (pingSession id) s.clock s.db = .error e) ∧
      after (pingSession id) s.clock s.db = s.db

/-- A database with one user, and no session yet. -/
def oneUser : Service where
  db := {
    tbUser := [⟨1, "first".toList, "family".toList, "user@example.org".toList, [], .undisclosed,
      .pending, some 0⟩]
    tbPassword := []
    tbEmailConfirmation := []
    tbSession := [] }
  clock := 0
  log := []

/-- The user has opened a session. -/
def oneSession (id : Uuid) (ua : Text) (ip : Inet) : Service where
  db := { oneUser.db with tbSession := [⟨id, 1, ua, ip, 0, oneHour⟩] }
  clock := 0
  log := [.opened id ua ip 0]

theorem oneUser_initial : oneUser.Initial := ⟨rfl, rfl⟩

theorem oneUser_reaches (id : Uuid) (ua : Text) (ip : Inet) :
    Machine.Reaches step oneUser (oneSession id ua ip) :=
  ⟨[.openSession id 1 ua ip], rfl⟩

/-- A session that has just been opened is not valid. -/
theorem sessionCorrect_fails_after_open :
    oneUser.Initial ∧
      Machine.Reaches step oneUser (oneSession 7 "agent".toList ⟨false, 0x7f000001, 32⟩) ∧
      ¬ SessionCorrect (oneSession 7 "agent".toList ⟨false, 0x7f000001, 32⟩) 7 "agent".toList
        ⟨false, 0x7f000001, 32⟩ := by
  refine ⟨oneUser_initial, oneUser_reaches _ _ _, ?_⟩
  intro hcorrect
  have hlive : Live (oneSession 7 "agent".toList ⟨false, 0x7f000001, 32⟩).log 7 "agent".toList
      ⟨false, 0x7f000001, 32⟩ 0 :=
    ⟨⟨"agent".toList, ⟨false, 0x7f000001, 32⟩, 0, false⟩, rfl, rfl, rfl, rfl, by decide⟩
  rcases hcorrect.valid_iff.mpr hlive with ⟨db', hok⟩
  rw [call_isSessionValid] at hok
  cases hok

/-- **Sessions.** In every state a run of the service reaches, `is_session_valid`
returns nothing, and the answers are the right ones exactly for a session that is
not open and unexpired. -/
theorem sessionCorrect_iff {s₀ s : Service} (hinit : s₀.Initial)
    (hreach : Machine.Reaches step s₀ s) (id : Uuid) (ua : Text) (ip : Inet) :
    (∀ valid db', call (isSessionValid id ua ip) s.clock s.db ≠ .ok (valid, db')) ∧
      (SessionCorrect s id ua ip ↔
        ¬ ∃ row ∈ s.db.tbSession, row.id = id ∧ s.clock < row.expiry) := by
  rcases call_pingSession id s.clock s.db with ⟨e, hping⟩
  have hvalid : ∀ valid db', call (isSessionValid id ua ip) s.clock s.db ≠ .ok (valid, db') := by
    intro valid db' hok
    rw [call_isSessionValid] at hok
    cases hok
  refine ⟨hvalid, ?_⟩
  rw [← (mirrors_of_reaches hinit hreach).openUnexpired_iff id]
  constructor
  · -- a ping of an open session would have to succeed
    intro hcorrect hopen
    rcases hcorrect.ping_of_open hopen with ⟨db', hok, -⟩
    rw [hping] at hok
    cases hok
  · intro hnot
    constructor
    · constructor
      · rintro ⟨db', hok⟩
        exact absurd hok (hvalid true db')
      · intro hlive
        exact absurd hlive.openUnexpired hnot
    · intro hopen
      exact absurd hopen hnot
    · intro _
      exact ⟨⟨e, hping⟩, after_of_error hping⟩

/-- Right after a session was opened, the answers about another id are the right ones. -/
theorem sessionCorrect_iff_oneSession :
    (∀ valid db', call (isSessionValid 8 "agent".toList ⟨false, 0x7f000001, 32⟩) 0
        (oneSession 7 "agent".toList ⟨false, 0x7f000001, 32⟩).db ≠ .ok (valid, db')) ∧
      (SessionCorrect (oneSession 7 "agent".toList ⟨false, 0x7f000001, 32⟩) 8 "agent".toList
          ⟨false, 0x7f000001, 32⟩ ↔
        ¬ ∃ row ∈ (oneSession 7 "agent".toList ⟨false, 0x7f000001, 32⟩).db.tbSession,
          row.id = 8 ∧ 0 < row.expiry) :=
  sessionCorrect_iff oneUser_initial (oneUser_reaches 7 "agent".toList ⟨false, 0x7f000001, 32⟩) 8
    "agent".toList ⟨false, 0x7f000001, 32⟩

end HelpCovid.Database.SessionLife
