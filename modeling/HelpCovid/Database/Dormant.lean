import Mathlib.Order.Bounds.Basic
import HelpCovid.Lib.Query
import HelpCovid.Database.Users

/-!
# Dormant users

The query of `delete_dormant_users` as it is written, a `DISTINCT ON` inside a
filter inside an `IN`, and what it finds: the users whose last session to expire
did so more than three months ago. `deleteDormantUsers` says it in that form.
-/

namespace HelpCovid.Database

open Plpgsql

/-! ## The query -/

/-- `ORDER BY user_id, expiry DESC` -/
def userThenExpiryDesc (a b : Int × Timestamp) : Prop := a.1 < b.1 ∨ a.1 = b.1 ∧ b.2 ≤ a.2

instance : DecidableRel userThenExpiryDesc := fun a b =>
  inferInstanceAs (Decidable (a.1 < b.1 ∨ a.1 = b.1 ∧ b.2 ≤ a.2))

instance : Std.Total userThenExpiryDesc where
  total a b := by
    rcases lt_trichotomy a.1 b.1 with hlt | heq | hgt
    · exact Or.inl (Or.inl hlt)
    · rcases le_total b.2 a.2 with hle | hle
      · exact Or.inl (Or.inr ⟨heq, hle⟩)
      · exact Or.inr (Or.inr ⟨heq.symm, hle⟩)
    · exact Or.inr (Or.inl hgt)

instance : IsTrans (Int × Timestamp) userThenExpiryDesc where
  trans a b c hab hbc := by
    rcases hab with hab | ⟨hab, hle⟩
    · rcases hbc with hbc | ⟨hbc, -⟩
      · exact Or.inl (lt_trans hab hbc)
      · exact Or.inl (hbc ▸ hab)
    · rcases hbc with hbc | ⟨hbc, hle'⟩
      · exact Or.inl (hab ▸ hbc)
      · exact Or.inr ⟨hab.trans hbc, le_trans hle' hle⟩

/-- `SELECT DISTINCT ON (user_id) user_id, expiry FROM tb_session ORDER BY user_id,
expiry DESC` -/
def latestSession (db : Tables) : List (Int × Timestamp) :=
  Query.distinctOn Prod.fst (Query.orderBy userThenExpiryDesc
    (db.tbSession.map fun row => (row.userId, row.expiry)))

variable (threeMonthsBefore : Timestamp → Timestamp)

/-- `SELECT user_id FROM (...) AS latest_session WHERE expiry < now() - interval '3
months'` -/
def dormantIds (now : Timestamp) (db : Tables) : List Int :=
  ((latestSession db).filter fun row => decide (row.2 < threeMonthsBefore now)).map Prod.fst

/-- `delete_dormant_users` -/
def deleteDormantUsersQuery : Proc Tables Unit := fun f =>
  (tbUser.delete cascadeUsers fun u =>
    decide (u.userId ∈ dormantIds threeMonthsBefore f.now f.db)) f

/-! ## What it should find -/

/-- The times at which the sessions of a user expire. -/
def Expiries (db : Tables) (userId : Int) : Set Timestamp :=
  {e | ∃ row ∈ db.tbSession, row.userId = userId ∧ row.expiry = e}

/-- The user has a session, and the latest of the expiries is long past. -/
def Dormant (now : Timestamp) (db : Tables) (userId : Int) : Prop :=
  ∃ e, IsGreatest (Expiries db userId) e ∧ e < threeMonthsBefore now

open Classical in
/-- Exactly the dormant users are gone, with their sessions and confirmations. -/
structure DormantDeleted (now : Timestamp) (db db' : Tables) : Prop where
  users : db'.tbUser = db.tbUser.filter fun u =>
    decide (¬ Dormant threeMonthsBefore now db u.userId)
  sessions : db'.tbSession = db.tbSession.filter fun row =>
    decide (¬ ∃ u ∈ db.tbUser, u.userId = row.userId ∧ Dormant threeMonthsBefore now db u.userId)
  confirmations : db'.tbEmailConfirmation = db.tbEmailConfirmation.filter fun c =>
    decide (¬ ∃ u ∈ db.tbUser, u.userId = c.confirmUserid ∧
      Dormant threeMonthsBefore now db u.userId)
  passwords : db'.tbPassword = db.tbPassword
  /-- one recent session is enough -/
  recent : ∀ u ∈ db.tbUser, ∀ row ∈ db.tbSession, row.userId = u.userId →
    threeMonthsBefore now ≤ row.expiry → u ∈ db'.tbUser

/-! ## What it finds -/

variable {threeMonthsBefore} {now : Timestamp} {db : Tables} {userId : Int}

theorem mem_sessions_iff {e : Timestamp} :
    (userId, e) ∈ (db.tbSession.map fun row => (row.userId, row.expiry)) ↔
      e ∈ Expiries db userId := by
  rw [List.mem_map]
  constructor
  · rintro ⟨row, hrow, heq⟩
    rcases Prod.mk.inj heq with ⟨hid, he⟩
    exact ⟨row, hrow, hid, he⟩
  · rintro ⟨row, hrow, hid, he⟩
    exact ⟨row, hrow, Prod.ext hid he⟩

/-- Of each user the query keeps the latest expiry. -/
theorem mem_latestSession_iff {e : Timestamp} :
    (userId, e) ∈ latestSession db ↔ IsGreatest (Expiries db userId) e := by
  constructor
  · intro h
    refine ⟨mem_sessions_iff.mp (Query.mem_of_mem_distinctOn h), ?_⟩
    intro t ht
    rcases Query.before_of_mem_distinctOn h (userId, t) (mem_sessions_iff.mpr ht) rfl with
      heq | hlt | hle
    · exact le_of_eq (congrArg Prod.snd heq)
    · exact absurd hlt (lt_irrefl userId)
    · exact hle.2
  · intro h
    obtain ⟨⟨id, t⟩, hfirst, heq⟩ :
        ∃ first ∈ latestSession db, first.1 = userId :=
      Query.exists_mem_distinctOn (mem_sessions_iff.mpr h.1)
    obtain rfl : id = userId := heq
    -- the row that is kept has the greatest expiry, too
    have ht := mem_sessions_iff.mp (Query.mem_of_mem_distinctOn hfirst)
    rcases Query.before_of_mem_distinctOn hfirst (id, e) (mem_sessions_iff.mpr h.1) rfl with
      heq | hlt | hle
    · rwa [heq]
    · exact absurd hlt (lt_irrefl id)
    · obtain rfl : e = t := le_antisymm hle.2 (h.2 ht)
      exact hfirst

theorem mem_dormantIds_iff :
    userId ∈ dormantIds threeMonthsBefore now db ↔ Dormant threeMonthsBefore now db userId := by
  simp only [dormantIds, List.mem_map, List.mem_filter, decide_eq_true_eq]
  constructor
  · rintro ⟨⟨id, e⟩, ⟨hlatest, hlt⟩, rfl⟩
    exact ⟨e, mem_latestSession_iff.mp hlatest, hlt⟩
  · rintro ⟨e, hgreatest, hlt⟩
    exact ⟨(userId, e), ⟨mem_latestSession_iff.mpr hgreatest, hlt⟩, rfl⟩

/-- The maximum of the expiries says the same. -/
theorem isDormant_iff :
    isDormant threeMonthsBefore db now userId = true ↔
      Dormant threeMonthsBefore now db userId := by
  have hlatest : ∀ e, latestExpiry db userId = some e ↔ IsGreatest (Expiries db userId) e := by
    intro e
    have hmem : ∀ t, t ∈ (db.tbSession.filter fun row => row.userId == userId).map
        SessionRow.expiry ↔ t ∈ Expiries db userId := by
      intro t
      simp only [List.mem_map, List.mem_filter, beq_iff_eq]
      constructor
      · rintro ⟨row, ⟨hrow, hid⟩, he⟩
        exact ⟨row, hrow, hid, he⟩
      · rintro ⟨row, hrow, hid, he⟩
        exact ⟨row, ⟨hrow, hid⟩, he⟩
    rw [latestExpiry, List.max?_eq_some_iff, hmem]
    refine and_congr_right fun _ => ?_
    constructor
    · intro hle t ht
      exact hle t ((hmem t).mpr ht)
    · intro hle t ht
      exact hle ((hmem t).mp ht)
  rw [isDormant, Option.any_eq_true]
  constructor
  · rintro ⟨e, he, hlt⟩
    exact ⟨e, (hlatest e).mp he, of_decide_eq_true hlt⟩
  · rintro ⟨e, he, hlt⟩
    exact ⟨e, (hlatest e).mpr he, decide_eq_true hlt⟩

/-- The query as written is the routine in its short form. -/
theorem deleteDormantUsersQuery_eq :
    deleteDormantUsersQuery threeMonthsBefore = deleteDormantUsers threeMonthsBefore := by
  funext f
  have hcond : (fun u : UserRow => decide (u.userId ∈ dormantIds threeMonthsBefore f.now f.db)) =
      fun u => isDormant threeMonthsBefore f.db f.now u.userId := by
    funext u
    rw [Bool.eq_iff_iff, decide_eq_true_eq, mem_dormantIds_iff, isDormant_iff]
  rw [deleteDormantUsersQuery, deleteDormantUsers, hcond]

/-- A user with a recent session is not dormant. -/
theorem not_dormant_of_recent {row : SessionRow} (hrow : row ∈ db.tbSession)
    (hid : row.userId = userId) (hrecent : threeMonthsBefore now ≤ row.expiry) :
    ¬ Dormant threeMonthsBefore now db userId := by
  rintro ⟨e, hgreatest, hlt⟩
  have hle : row.expiry ≤ e := hgreatest.2 ⟨row, hrow, hid, rfl⟩
  exact absurd (lt_of_le_of_lt (le_trans hrecent hle) hlt) (lt_irrefl _)

/-- What the cascade leaves: the rows of no deleted user. -/
theorem not_any_dormant_iff (id : Int) :
    (!(db.tbUser.filter fun u => isDormant threeMonthsBefore db now u.userId).any
        fun u => u.userId == id) = true ↔
      ¬ ∃ u ∈ db.tbUser, u.userId = id ∧ Dormant threeMonthsBefore now db u.userId := by
  rw [Bool.not_eq_true', ← Bool.not_eq_true, not_iff_not, List.any_eq_true]
  simp only [List.mem_filter, isDormant_iff, beq_iff_eq]
  constructor
  · rintro ⟨u, ⟨hu, hdormant⟩, hid⟩
    exact ⟨u, hu, hid, hdormant⟩
  · rintro ⟨u, hu, hid, hdormant⟩
    exact ⟨u, ⟨hu, hdormant⟩, hid⟩

/-- **Exactness.** A call deletes the dormant users with what refers to them, and
nothing else. -/
theorem call_deleteDormantUsersQuery (threeMonthsBefore : Timestamp → Timestamp)
    (now : Timestamp) (db : Tables) :
    ∃ db', call (deleteDormantUsersQuery threeMonthsBefore) now db = .ok ((), db') ∧
      DormantDeleted threeMonthsBefore now db db' := by
  classical
  have husers : (db.tbUser.filter fun u => !isDormant threeMonthsBefore db now u.userId) =
      db.tbUser.filter fun u => decide (¬ Dormant threeMonthsBefore now db u.userId) := by
    refine List.filter_congr fun u _ => ?_
    rw [Bool.eq_iff_iff, Bool.not_eq_true', ← Bool.not_eq_true, isDormant_iff, decide_eq_true_eq]
  refine ⟨_, by rw [deleteDormantUsersQuery_eq, call_deleteDormantUsers], ?_⟩
  refine ⟨husers, ?_, ?_, rfl, ?_⟩
  · refine List.filter_congr fun row _ => ?_
    rw [Bool.eq_iff_iff, not_any_dormant_iff, decide_eq_true_eq]
  · refine List.filter_congr fun c _ => ?_
    rw [Bool.eq_iff_iff, not_any_dormant_iff, decide_eq_true_eq]
  · intro u hu row hrow hid hrecent
    show u ∈ db.tbUser.filter fun u => !isDormant threeMonthsBefore db now u.userId
    rw [husers, List.mem_filter, decide_eq_true_eq]
    exact ⟨hu, not_dormant_of_recent hrow hid hrecent⟩

end HelpCovid.Database
