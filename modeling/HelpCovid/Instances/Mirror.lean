import HelpCovid.Instances.Model

/-!
# The instance table and the running processes

`tb_helpcovidinstance` should have one row for each running process. A run keeps
this as long as `main` returns only after `hcv_close_database`, and the database
is cleared only while no process is active (`mirrors_iff_orderly`). `main` itself
never calls `hcv_close_database`.
-/

namespace HelpCovid.Instances

/-- One row for each active process, and no other row. -/
def Mirrored (w : World) : Prop :=
  ∀ p, w.rows.countP (fun row => row.hcvinstProcess == p) = if w.isActive p then 1 else 0

/-- The step leads to a mirrored table, and a process deletes its own row only. -/
structure Mirrors (w : World) (a : ProcessId × Action) (w' : World) : Prop where
  mirrored : Mirrored w'
  deletesOwn : ∀ row ∈ w.rows, row ∉ w'.rows → row.hcvinstProcess = a.1

/-- The database is cleared only while no process is active, and `main` returns only
after the background thread has closed the database. -/
def Orderly (w : World) : ProcessId × Action → Prop
  | (p, .connect) => ∀ pr, w.processes p = some pr → pr.options.shouldClearDatabase = true →
      ∀ q, w.isActive q = false
  | (p, .mainReturn) => ∀ pr, w.processes p = some pr → pr.background = .ended
  | _ => True

/-! ## The invariant -/

/-- The table is mirrored; the serial of an active process is the one of its row,
and no other row has it. -/
structure Registered (w : World) : Prop where
  mirrored : Mirrored w
  serial : ∀ row ∈ w.rows, ∀ pr, w.processes row.hcvinstProcess = some pr →
    pr.databaseSerial = row.hcvinstId
  owner : ∀ row ∈ w.rows, ∀ row' ∈ w.rows, row.hcvinstId = row'.hcvinstId →
    row.hcvinstProcess = row'.hcvinstProcess
  positive : ∀ row ∈ w.rows, 0 < row.hcvinstId
  nextval : ∀ t, w.table = some t → 0 < t.nextval ∧ ∀ row ∈ t.rows, row.hcvinstId < t.nextval
  running : ∀ p pr, w.processes p = some pr → pr.background ≠ .notStarted → pr.main = .running

namespace World

variable {w : World} {p : ProcessId}

theorem rows_of_table {t : InstanceTable} (h : w.table = some t) : w.rows = t.rows := by
  simp [rows, h]

theorem rows_of_none (h : w.table = none) : w.rows = [] := by
  simp [rows, h]

theorem isActive_of_processes {pr : Process} (h : w.processes p = some pr) :
    w.isActive p = pr.isActive := by
  simp [isActive, h]

end World

/-- From `w` to `w'` process `p` becomes `new` and the others stay as they are. -/
structure Moves (w : World) (p : ProcessId) (new : Option Process) (w' : World) : Prop where
  self : w'.processes p = new
  others : ∀ q, q ≠ p → w'.processes q = w.processes q

section Frame

variable {w w' : World} {p q : ProcessId} {new : Option Process}

theorem moves_setProcess (table : Option InstanceTable) :
    Moves w p new { w.setProcess p new with table := table } where
  self := by simp [World.setProcess]
  others q hq := by simp [World.setProcess, hq]

theorem Moves.isActive_self (m : Moves w p new w') : w'.isActive p = new.any Process.isActive := by
  rw [World.isActive, m.self]

theorem Moves.isActive_of_ne (m : Moves w p new w') (hq : q ≠ p) :
    w'.isActive q = w.isActive q := by
  rw [World.isActive, World.isActive, m.others q hq]

/-- The last field of the invariant is about the processes only. -/
theorem Moves.running (m : Moves w p new w') (h : Registered w)
    (hnew : ∀ pr, new = some pr → pr.background ≠ .notStarted → pr.main = .running) :
    ∀ q pr, w'.processes q = some pr → pr.background ≠ .notStarted → pr.main = .running := by
  intro q pr hpr
  by_cases hq : q = p
  · subst hq
    exact hnew pr (m.self ▸ hpr)
  · rw [m.others q hq] at hpr
    exact h.running q pr hpr

end Frame

section Invariant

variable {w : World} {p : ProcessId}

/-- A process with a row is active. -/
theorem Mirrored.isActive (h : Mirrored w) {row : InstanceRow} (hrow : row ∈ w.rows) :
    w.isActive row.hcvinstProcess = true := by
  by_contra hidle
  have hzero := h row.hcvinstProcess
  rw [if_neg hidle, List.countP_eq_zero] at hzero
  exact hzero row hrow (by simp)

/-- An active process has a row. -/
theorem Mirrored.exists_row (h : Mirrored w) (hactive : w.isActive p = true) :
    ∃ row ∈ w.rows, row.hcvinstProcess = p := by
  have hone := h p
  rw [if_pos hactive] at hone
  have hpos : 0 < w.rows.countP fun row => row.hcvinstProcess == p := by omega
  rcases List.countP_pos_iff.mp hpos with ⟨row, hrow, heq⟩
  exact ⟨row, hrow, by simpa using heq⟩

/-- While no process is active the table is empty. -/
theorem Mirrored.rows_eq_nil (h : Mirrored w) (hidle : ∀ q, w.isActive q = false) :
    w.rows = [] := by
  rw [List.eq_nil_iff_forall_not_mem]
  intro row hrow
  have hactive := h.isActive hrow
  rw [hidle] at hactive
  exact Bool.noConfusion hactive

/-- A process changes and the table does not. The process stays as active as it was,
and keeps its serial if it is active. -/
theorem Registered.setProcess (h : Registered w) (p : ProcessId) (new : Option Process)
    (hactive : new.any Process.isActive = w.isActive p)
    (hserial : w.isActive p = true → ∀ pr, new = some pr →
      ∃ old, w.processes p = some old ∧ pr.databaseSerial = old.databaseSerial)
    (hrunning : ∀ pr, new = some pr → pr.background ≠ .notStarted → pr.main = .running) :
    Registered (w.setProcess p new) := by
  have m : Moves w p new (w.setProcess p new) := moves_setProcess w.table
  refine ⟨?_, ?_, h.owner, h.positive, h.nextval, m.running h hrunning⟩
  · intro q
    have hsame : (w.setProcess p new).isActive q = w.isActive q := by
      by_cases hq : q = p
      · rw [hq, m.isActive_self, hactive]
      · exact m.isActive_of_ne hq
    rw [hsame]
    exact h.mirrored q
  · intro row hrow pr hpr
    by_cases hq : row.hcvinstProcess = p
    · rw [hq, m.self] at hpr
      have hact : w.isActive p = true := hq ▸ h.mirrored.isActive hrow
      rcases hserial hact pr hpr with ⟨old, hold, heq⟩
      rw [heq]
      exact h.serial row hrow old (hq ▸ hold)
    · rw [m.others _ hq] at hpr
      exact h.serial row hrow pr hpr

/-- Clearing the database while no process is active. -/
theorem Registered.dropTable (h : Registered w) (hidle : ∀ q, w.isActive q = false) :
    Registered { w with table := none } := by
  have hrows : ({ w with table := none } : World).rows = [] := World.rows_of_none rfl
  refine ⟨?_, ?_, ?_, ?_, ?_, h.running⟩
  · intro q
    rw [hrows]
    have hq : ({ w with table := none } : World).isActive q = false := hidle q
    rw [hq]
    rfl
  · simp [hrows]
  · simp [hrows]
  · simp [hrows]
  · intro t ht
    cases ht

/-- Connecting, with or without clearing the database. -/
theorem Registered.clear (h : Registered w) {clear : Bool}
    (hidle : clear = true → ∀ q, w.isActive q = false) :
    Registered { w with table := if clear then none else w.table } ∧
      ∀ row ∈ w.rows, row ∈ ({ w with table := if clear then none else w.table } : World).rows := by
  cases clear with
  | false => exact ⟨h, fun _ hrow => hrow⟩
  | true =>
      refine ⟨h.dropTable (hidle rfl), ?_⟩
      intro row hrow
      rw [h.mirrored.rows_eq_nil (hidle rfl)] at hrow
      cases hrow

end Invariant

/-! ## Registering and closing -/

section Steps

variable {w w' : World} {p : ProcessId} {pr : Process}

/-- What a registration does: a row with a fresh serial is added. -/
theorem register_eq_some (h : register w p pr = some w') :
    ∃ t, t = w.table.getD .created ∧
      w' = { w.setProcess p (some { pr with
          main := .running, background := .polling, databaseSerial := t.nextval }) with
        table := some ⟨t.rows ++ [⟨t.nextval, p⟩], t.nextval + 1⟩ } := by
  refine ⟨_, rfl, ?_⟩
  simp only [register, sqlRegisterHelpcovidInstance] at h
  split at h
  · simp only [Option.bind_eq_bind, Option.bind_some] at h
    split at h
    · exact (Option.some.inj h).symm
    · cases h
  · cases h

theorem getD_created_rows : (w.table.getD .created).rows = w.rows := by
  cases ht : w.table with
  | none => simp [World.rows, ht, InstanceTable.created]
  | some t => simp [World.rows, ht]

theorem Registered.nextval_created (h : Registered w) :
    0 < (w.table.getD .created).nextval ∧
      ∀ row ∈ w.rows, row.hcvinstId < (w.table.getD .created).nextval := by
  cases ht : w.table with
  | none => simp [World.rows_of_none ht, InstanceTable.created]
  | some t =>
      rw [World.rows_of_table ht]
      exact h.nextval t ht

/-- A registration adds a row and keeps the others. -/
theorem rows_register (h : register w p pr = some w') :
    w'.rows = w.rows ++ [⟨(w.table.getD .created).nextval, p⟩] := by
  rcases register_eq_some h with ⟨t, ht, hw'⟩
  have hrows : w'.rows = t.rows ++ [⟨t.nextval, p⟩] := by
    rw [hw']
    rfl
  rw [hrows, ht, getD_created_rows]

/-- Registering a process that is not active. -/
theorem Registered.register (h : Registered w) (hidle : w.isActive p = false)
    (hreg : register w p pr = some w') : Registered w' := by
  have hrows := rows_register hreg
  rcases register_eq_some hreg with ⟨t, ht, hw'⟩
  rcases h.nextval_created with ⟨hpos, hlt⟩
  rw [← ht] at hrows hpos hlt
  have m : Moves w p (some { pr with
      main := .running, background := .polling, databaseSerial := t.nextval }) w' :=
    hw' ▸ moves_setProcess _
  -- the rows that were there belong to other processes
  have hother : ∀ row ∈ w.rows, row.hcvinstProcess ≠ p := by
    intro row hrow heq
    have hactive := h.mirrored.isActive hrow
    rw [heq, hidle] at hactive
    exact Bool.noConfusion hactive
  have hmem : ∀ row ∈ w'.rows, row ∈ w.rows ∨ row = ⟨t.nextval, p⟩ := by
    intro row hrow
    rw [hrows] at hrow
    simpa using hrow
  refine ⟨?_, ?_, ?_, ?_, ?_, m.running h fun new hnew _ => by cases hnew; rfl⟩
  · intro q
    rw [hrows, List.countP_append, h.mirrored q]
    by_cases hq : q = p
    · rw [hq, hidle, m.isActive_self]
      simp [Process.isActive]
    · have hne : (p == q) = false := by simpa using fun heq => hq heq.symm
      rw [m.isActive_of_ne hq, List.countP_singleton, hne]
      exact Nat.add_zero _
  · intro row hrow new hnew
    rcases hmem row hrow with hrow | rfl
    · rw [m.others _ (hother row hrow)] at hnew
      exact h.serial row hrow new hnew
    · rw [m.self] at hnew
      cases hnew
      rfl
  · intro row hrow row' hrow' heq
    rcases hmem row hrow with hrow | rfl
    · rcases hmem row' hrow' with hrow' | rfl
      · exact h.owner row hrow row' hrow' heq
      · exact absurd heq (Int.ne_of_lt (hlt row hrow))
    · rcases hmem row' hrow' with hrow' | rfl
      · exact absurd heq.symm (Int.ne_of_lt (hlt row' hrow'))
      · rfl
  · intro row hrow
    rcases hmem row hrow with hrow | rfl
    · exact h.positive row hrow
    · exact hpos
  · intro t' ht'
    have hrows' := World.rows_of_table ht'
    have hnext : t'.nextval = t.nextval + 1 := by
      rw [hw'] at ht'
      cases ht'
      rfl
    rw [hnext]
    refine ⟨by omega, ?_⟩
    intro row hrow
    rw [← hrows'] at hrow
    rcases hmem row hrow with hrow | rfl
    · have := hlt row hrow
      omega
    · show t.nextval < t.nextval + 1
      omega

/-- What the end of a registered process does: the rows with its serial are deleted. -/
theorem closeDatabase_eq_some (h : closeDatabase w p pr = some w') (hpos : 0 < pr.databaseSerial) :
    ∃ t, w.table = some t ∧
      w' = { w.setProcess p (some { pr with
          background := .ended, dbconn := false, databaseSerial := 0 }) with
        table := some { t with
          rows := t.rows.filter fun row => row.hcvinstId != pr.databaseSerial } } := by
  simp only [closeDatabase, sqlUnregisterHelpcovidInstance] at h
  rw [if_pos hpos] at h
  cases ht : w.table with
  | none =>
      rw [ht] at h
      cases h
  | some t =>
      rw [ht] at h
      exact ⟨t, rfl, (Option.some.inj h).symm⟩

/-- The rows with the serial of an active process are its own. -/
theorem Registered.owns_iff (h : Registered w) (hpr : w.processes p = some pr)
    (hactive : pr.isActive = true) :
    0 < pr.databaseSerial ∧
      ∀ row ∈ w.rows, row.hcvinstId = pr.databaseSerial ↔ row.hcvinstProcess = p := by
  have hact : w.isActive p = true := by rw [World.isActive_of_processes hpr, hactive]
  rcases h.mirrored.exists_row hact with ⟨own, hown, hownp⟩
  have hserial : pr.databaseSerial = own.hcvinstId := h.serial own hown pr (hownp ▸ hpr)
  refine ⟨hserial ▸ h.positive own hown, ?_⟩
  intro row hrow
  constructor
  · intro heq
    rw [← hownp]
    exact h.owner row hrow own hown (heq.trans hserial)
  · intro heq
    exact (h.serial row hrow pr (heq ▸ hpr)).symm

/-- Closing the database of an active process: its own row is deleted, no other. -/
theorem Registered.closeDatabase (h : Registered w) (hpr : w.processes p = some pr)
    (hactive : pr.isActive = true) (hclose : closeDatabase w p pr = some w') :
    Registered w' ∧ ∀ row ∈ w.rows, row ∉ w'.rows → row.hcvinstProcess = p := by
  rcases h.owns_iff hpr hactive with ⟨hpos, hrow_iff⟩
  rcases closeDatabase_eq_some hclose hpos with ⟨t, ht, hw'⟩
  have hrows : w'.rows = w.rows.filter fun row => row.hcvinstId != pr.databaseSerial := by
    rw [hw', World.rows_of_table ht]
    rfl
  have m : Moves w p (some { pr with
      background := .ended, dbconn := false, databaseSerial := 0 }) w' :=
    hw' ▸ moves_setProcess _
  have hsub : ∀ row ∈ w'.rows, row ∈ w.rows ∧ row.hcvinstProcess ≠ p := by
    intro row hrow
    rw [hrows] at hrow
    rcases List.mem_filter.mp hrow with ⟨hrow, hne⟩
    exact ⟨hrow, fun heq => (by simpa using hne : row.hcvinstId ≠ pr.databaseSerial)
      ((hrow_iff row hrow).mpr heq)⟩
  have hrunning : pr.main = .running := by
    simp only [Process.isActive, Bool.and_eq_true, beq_iff_eq] at hactive
    exact hactive.1
  refine ⟨⟨?_, ?_, ?_, ?_, ?_, m.running h fun new hnew _ => by cases hnew; exact hrunning⟩, ?_⟩
  · intro q
    by_cases hq : q = p
    · have hidle : w'.isActive q = false := by
        rw [hq, m.isActive_self]
        simp [Process.isActive]
      rw [hidle, List.countP_eq_zero.mpr]
      · rfl
      · intro row hrow heq
        exact (hsub row hrow).2 (hq ▸ beq_iff_eq.mp heq)
    · rw [m.isActive_of_ne hq, ← h.mirrored q, hrows, List.countP_filter]
      refine List.countP_congr fun row hrow => ?_
      simp only [Bool.and_eq_true, beq_iff_eq, bne_iff_ne]
      exact ⟨fun heq => heq.1, fun heq => ⟨heq, fun hid =>
        hq (heq.symm.trans ((hrow_iff row hrow).mp hid))⟩⟩
  · intro row hrow new hnew
    rcases hsub row hrow with ⟨hrow, hne⟩
    rw [m.others _ hne] at hnew
    exact h.serial row hrow new hnew
  · intro row hrow row' hrow'
    exact h.owner row (hsub row hrow).1 row' (hsub row' hrow').1
  · intro row hrow
    exact h.positive row (hsub row hrow).1
  · intro t' ht'
    rw [hw'] at ht'
    cases ht'
    refine ⟨(h.nextval t ht).1, ?_⟩
    intro row hrow
    exact (h.nextval t ht).2 row (List.mem_of_mem_filter hrow)
  · intro row hrow hnot
    by_contra hne
    refine hnot ?_
    rw [hrows, List.mem_filter]
    exact ⟨hrow, by simpa using fun heq => hne ((hrow_iff row hrow).mp heq)⟩

end Steps

/-! ## Runs -/

section Runs

variable {w w' : World} {p : ProcessId}

/-- The rows are those before: no row of another process was deleted. -/
theorem Registered.mirrors (h : Registered w') (a : Action)
    (hrows : ∀ row ∈ w.rows, row ∈ w'.rows) : Mirrors w (p, a) w' :=
  ⟨h.mirrored, fun row hrow hnot => absurd (hrows row hrow) hnot⟩

theorem isActive_eq_false {pr : Process} (hpr : w.processes p = some pr)
    (hmain : pr.main ≠ .running) : w.isActive p = false := by
  rw [World.isActive_of_processes hpr]
  simp [Process.isActive, hmain]

/-- What one step keeps, if it is an orderly one. -/
theorem Registered.step (h : Registered w) {a : Action} (hstep : step w (p, a) = some w')
    (horderly : Orderly w (p, a)) : Registered w' ∧ Mirrors w (p, a) w' := by
  rcases step_cases hstep with ⟨o, rfl, hpr, rfl⟩ | ⟨pr, hpr, hcases⟩
  · have hidle : w.isActive p = false := by simp [World.isActive, hpr]
    have hreg := h.setProcess p
      (some ⟨o, .starting, .notStarted, o.hasWebserver, false, 0⟩)
      (by rw [hidle]; rfl) (by simp [hidle]) (by simp)
    exact ⟨hreg, hreg.mirrors _ fun _ hrow => hrow⟩
  rcases hcases with ⟨rfl, hmain, rfl⟩ | ⟨rfl, hmain, hreg⟩ | ⟨rfl, hbg, rfl⟩ |
    ⟨rfl, hbg, hclose⟩ | ⟨rfl, hmain, rfl⟩
  · rcases h.clear fun hclear => horderly pr hpr hclear with ⟨hcleared, hrows⟩
    have hidle : w.isActive p = false := isActive_eq_false hpr (by simp [hmain])
    have hreg := hcleared.setProcess p
      (some { pr with main := .connected, dbconn := true })
      (Eq.trans (by simp [Process.isActive]) hidle.symm)
      (fun hact => absurd (hidle.symm.trans hact) (by simp))
      (by
        intro new hnew hstarted
        cases hnew
        exact absurd (h.running p pr hpr hstarted) (by simp [hmain]))
    exact ⟨hreg, hreg.mirrors _ hrows⟩
  · have hidle : w.isActive p = false := isActive_eq_false hpr (by simp [hmain])
    have hreg' := h.register hidle hreg
    refine ⟨hreg', hreg'.mirrors _ fun row hrow => ?_⟩
    rw [rows_register hreg]
    exact List.mem_append_left _ hrow
  · have hreg := h.setProcess p
      (some { pr with background := .terminating, webserver := false })
      (by rw [World.isActive_of_processes hpr, Process.isActive, hbg]; rfl)
      (by
        intro _ new hnew
        cases hnew
        exact ⟨pr, hpr, rfl⟩)
      (by
        intro new hnew _
        cases hnew
        exact h.running p pr hpr (by simp [hbg]))
    exact ⟨hreg, hreg.mirrors _ fun _ hrow => hrow⟩
  · have hrunning := h.running p pr hpr (by simp [hbg])
    have hactive : pr.isActive = true := by simp [Process.isActive, hrunning, hbg]
    rcases h.closeDatabase hpr hactive hclose with ⟨hreg, hdeletes⟩
    exact ⟨hreg, hreg.mirrored, hdeletes⟩
  · have hidle : w.isActive p = false := by
      rw [World.isActive_of_processes hpr]
      simp [Process.isActive, horderly pr hpr]
    have hreg := h.setProcess p none (by rw [hidle]; rfl) (by simp) (by simp)
    exact ⟨hreg, hreg.mirrors _ fun _ hrow => hrow⟩

end Runs

end HelpCovid.Instances
