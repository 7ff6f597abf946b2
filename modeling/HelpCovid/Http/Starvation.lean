import HelpCovid.Http.Endings
import HelpCovid.Http.Jobs

/-!
# A server without workers

A job of the thread pool that never returns keeps its worker. Once as many of them have
started as there are workers, no job starts any more, whatever is enqueued and however
the threads take turns, and `shutdown` waits for ever (`starved`). A connection with a
form that is cut is such a job, so as many of them as there are workers stop the server
(`forms_starve`).
-/

namespace HelpCovid.Http

namespace ThreadPool

open Machine

variable {α : Type*}

/-! ## Jobs that never return -/

/-- Every worker runs a job that never returns. -/
def Full (Hangs : α → Prop) (s : Pool α) : Prop :=
  ∀ w ∈ s.threads, ∃ fn, w = .running fn ∧ Hangs fn

theorem Moves.mem {w w' : Worker α} {ts ts' : List (Worker α)} (h : Moves w w' ts ts') :
    w ∈ ts := by
  cases h with
  | intro before after => simp

theorem finished_step {s s' : Pool α} {a : Action α} (h : Transition s a s') :
    s.finished <+: s'.finished := by
  cases h with
  | done hmove => exact List.prefix_append _ _
  | _ => exact List.prefix_rfl

/-- A step of a full pool starts no job and leaves it full, unless a job that never
returns has returned. -/
theorem full_step {Hangs : α → Prop} {s s' : Pool α} {a : Action α} (hs : Full Hangs s)
    (h : Transition s a s') (hfinished : ∀ fn ∈ s'.finished, ¬ Hangs fn) :
    Full Hangs s' ∧ s'.started = s.started := by
  have hrunning : ∀ w ∈ s.threads, w.job? ≠ none := by
    intro w hw
    rcases hs w hw with ⟨fn, rfl, -⟩
    exact Option.some_ne_none fn
  cases h with
  | enqueueBusy | setShutdown | join => exact ⟨hs, rfl⟩
  | enqueue _ hmove | wake hmove | take _ hmove | exit _ _ hmove | wait _ _ hmove =>
      exact absurd rfl (hrunning _ hmove.mem)
  | notifyAll =>
      refine ⟨fun w hw => ?_, rfl⟩
      rcases List.mem_map.mp hw with ⟨v, hv, rfl⟩
      rcases hs v hv with ⟨fn, rfl, hfn⟩
      exact ⟨fn, rfl, hfn⟩
  | done hmove =>
      rcases hs _ hmove.mem with ⟨fn, hfn, hhangs⟩
      obtain rfl := Worker.running.inj hfn
      exact absurd hhangs (hfinished _ (List.mem_append_right _ List.mem_cons_self))

theorem finished_exec {s t : Pool α} {as : List (Action α)} (h : exec step s as = some t) :
    s.finished <+: t.finished :=
  @exec_invariant _ _ step (fun u => s.finished <+: u.finished)
    (fun _ _ _ hu hstep => hu.trans (finished_step (transition_of_step hstep))) s t as
    List.prefix_rfl h

theorem full_exec {Hangs : α → Prop} {s t : Pool α} {as : List (Action α)} (hs : Full Hangs s)
    (h : exec step s as = some t) (hfinished : ∀ fn ∈ t.finished, ¬ Hangs fn) :
    Full Hangs t ∧ t.started = s.started := by
  induction as generalizing s with
  | nil =>
      obtain rfl : s = t := by simpa using h
      exact ⟨hs, rfl⟩
  | cons a as ih =>
      rcases exec_cons.mp h with ⟨s', hs', hrest⟩
      have hfirst := full_step hs (transition_of_step hs') fun fn hfn =>
        hfinished fn ((finished_exec hrest).subset hfn)
      rcases ih hfirst.1 hrest with ⟨hfull, hstarted⟩
      exact ⟨hfull, hstarted.trans hfirst.2⟩

/-- As many jobs that never return as there are workers, and the pool is full. -/
theorem full_of_started {Hangs : α → Prop} {s : Pool α} (hs : Sound s) {hanging : List α}
    (hsub : hanging.Sublist s.started) (hhangs : ∀ fn ∈ hanging, Hangs fn)
    (hcount : s.threads.length ≤ hanging.length) (hfinished : ∀ fn ∈ s.finished, ¬ Hangs fn) :
    Full Hangs s := by
  classical
  have hstarted : hanging.length ≤ s.started.countP fun fn => Hangs fn := by
    refine le_trans (le_of_eq ?_) hsub.countP_le
    exact (List.countP_eq_length.mpr fun fn hfn => by simpa using hhangs fn hfn).symm
  have hnone : s.finished.countP (fun fn => Hangs fn) = 0 :=
    List.countP_eq_zero.mpr fun fn hfn => by simpa using hfinished fn hfn
  -- those that were started and have not returned are being run
  rw [hs.accounted.countP_eq, List.countP_append, hnone, Nat.add_zero, Pool.running,
    List.countP_filterMap] at hstarted
  have hall := List.countP_eq_length.mp (le_antisymm List.countP_le_length (hcount.trans hstarted))
  intro w hw
  have hjob := hall w hw
  cases w with
  | running fn => exact ⟨fn, rfl, by simpa [Worker.job?] using hjob⟩
  | _ => cases hjob

/-- Once as many jobs that never return have started as there are workers, no job starts
any more, and `shutdown` does not return. -/
theorem starved {Hangs : α → Prop} {n : Nat} (hn : 0 < n) {s t : Pool α}
    (h : Reaches step (threadPool n) s) {hanging : List α} (hsub : hanging.Sublist s.started)
    (hhangs : ∀ fn ∈ hanging, Hangs fn) (hcount : n ≤ hanging.length) (hrun : Reaches step s t)
    (hfinished : ∀ fn ∈ t.finished, ¬ Hangs fn) : t.started = s.started ∧ ¬ t.Joined := by
  have hs := sound_of_reaches h
  rcases hrun with ⟨as, hrun⟩
  have hlength : s.threads.length = n :=
    (reaches_threads_length h).trans List.length_replicate
  have hfull : Full Hangs s := full_of_started hs hsub hhangs (hlength.trans_le hcount) fun fn hfn =>
    hfinished fn ((finished_exec hrun).subset hfn)
  rcases full_exec hfull hrun hfinished with ⟨hfullEnd, hstarted⟩
  refine ⟨hstarted, fun hjoined => ?_⟩
  -- a thread that is joined has left
  have htlength : t.threads.length = n := (reaches_threads_length ⟨as, hrun⟩).trans hlength
  have hpos : 0 < t.threads.length := htlength.symm ▸ hn
  have ht : Sound t := exec_invariant (fun _ _ _ hu hstep => sound_step hu hstep) hs hrun
  have hexited := ht.joined _ hjoined 0 hpos
  rcases hfullEnd (t.threads[0]) (List.getElem_mem hpos) with ⟨fn, hfn, -⟩
  rw [List.getElem?_eq_getElem hpos, hfn, Option.some.injEq] at hexited
  cases hexited

end ThreadPool

/-! ## Connections that never end -/

open Machine ThreadPool

variable {σ : Type} {server : Server σ} {env : Environment}

/-- The job of a connection never returns. -/
def Server.Hangs (server : Server σ) (env : Environment) (count : Nat) (strm : Stream) : Prop :=
  ∀ s, server.processSocket env count strm s = .error .hang

/-- As many connections with a form that is cut as the server has workers stop it: no
other connection is served, and the server does not come to its end. -/
theorem forms_starve {n : Nat} (hn : 0 < n) {s t : Pool Stream}
    (h : Reaches step (threadPool n) s) {count : Nat} (hcount : 0 < count)
    (hsize : server.payloadMaxLength < 2 ^ 64) {forms : List (ClientRequest × Text × Bool)}
    (hforms : ∀ form ∈ forms, SendsCutForm server env form.1) (hlength : n ≤ forms.length)
    (hstarted : (forms.map fun form =>
      (⟨form.1.text ++ form.2.1, form.2.2⟩ : Stream)).Sublist s.started)
    (hrun : Reaches step s t) (hfinished : ∀ strm ∈ t.finished, ¬ server.Hangs env count strm) :
    t.started = s.started ∧ ¬ t.Joined := by
  refine starved hn h hstarted (fun strm hstrm => ?_) ?_ hrun hfinished
  · rcases List.mem_map.mp hstrm with ⟨form, hform, rfl⟩
    intro st
    have hanswered : server.answers env count [] st = .ok ([], [], st) := by
      cases count with
      | zero => exact absurd hcount (Nat.lt_irrefl 0)
      | succ count => rfl
    have hhangs := form_hangs (hforms form hform) hsize (by simp) hcount hanswered form.2.1 form.2.2
    rwa [List.flatMap_nil, List.nil_append] at hhangs
  · rwa [List.length_map]

/-- Two workers, a form for each, and a third connection. -/
def cutConnection : Stream := ⟨cutForm.text ++ [], false⟩

def starvedRun : List (Action Stream) :=
  [.lock 0, .lock 1, .enqueue cutConnection (some 0), .enqueue cutConnection (some 1), .lock 0,
    .lock 1]

def starvedPool (jobs : List Stream) : Pool Stream where
  jobs := jobs
  shutdown := false
  threads := [.running cutConnection, .running cutConnection]
  phase := .accepting
  enqueued := [cutConnection, cutConnection] ++ jobs
  started := [cutConnection, cutConnection]
  finished := []

theorem forms_starve_two_workers :
    (starvedPool [⟨[], false⟩]).started = (starvedPool []).started ∧
      ¬ (starvedPool [⟨[], false⟩]).Joined :=
  @forms_starve Nat pageServer quietEnvironment 2 (by decide) (starvedPool [])
    (starvedPool [⟨[], false⟩]) ⟨starvedRun, rfl⟩ keepAliveMaxCount (by decide) (by decide)
    [(cutForm, [], false), (cutForm, [], false)] (by
      have hsends := sendsCutForm_cutForm
      simp [hsends]) (by decide) (List.Sublist.refl _)
    ⟨[.enqueue ⟨[], false⟩ none], rfl⟩ (by simp [starvedPool])

end HelpCovid.Http
