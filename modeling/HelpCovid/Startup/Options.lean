import HelpCovid.Lib.KeyFile
import HelpCovid.Lib.Machine

/-!
# Program options and environment variables

`hcv_early_initialize`, `hcv_parse1opt` and `hcv_parse_program_arguments`, as far
as they concern the settings of the server. The parameters are `setlocale`, which
gives the full name of a locale it accepts (and that name is not empty), and
`std::thread::hardware_concurrency()`.
-/

namespace HelpCovid.Startup

open CText

/-- The keys of `hcv_progoptions`, without `--syslog-level` and `--plugin`. -/
inductive ProgOption where
  | webUrl
  | postgresUri
  | webRoot
  | setEuid
  | config
  | threads
  | locale
  | writePid
  | debug
  | webSslCert
  | webSslKey
  | clearDatabase
  | cleanup
deriving Repr, DecidableEq

/-- `hcv_progarguments` and the global variables that options set. -/
structure ProgArguments where
  weburl : Text
  config : Text
  postgresuri : Text
  webroot : Text
  seteuid : Text
  opensslcert : Text
  opensslkey : Text
  pidfile : Text
  debugging : Bool
  shouldCleanup : Bool
  shouldClearDatabase : Bool
  /-- `hcv_http_max_threads` -/
  httpMaxThreads : Nat
  /-- `hcv_current_locale`, unless it is empty -/
  currentLocale : Option Text
deriving Repr, DecidableEq

/-- What ends the program. -/
inductive Fatal where
  /-- `argp_parse` was told `ARGP_ERR_UNKNOWN` -/
  | unknownOption (o : ProgOption)
  /-- `HCV_FATALOUT` for a key that is missing -/
  | missingKey (group key : Text)
  /-- an exception that nobody catches -/
  | keyFile (e : KeyFileError)
deriving Repr, DecidableEq

/-- `hardware_concurrency() - 1`, an unsigned number. -/
def concurrencyMinusOne (hw : Nat) : Nat := toUnsigned (hw - 1)

/-- The bounds on a number of threads from an option or the configuration file. -/
def clampThreads (hw n : Nat) : Nat :=
  if n < 2 then 2
  else if n > 4 ∧ n > concurrencyMinusOne hw then
    if hw > 8 then concurrencyMinusOne hw else 4
  else n

/-- The bounds on a number of threads from the environment. -/
def clampEarly (hw n : Nat) : Nat :=
  let n := if n ≥ hw then concurrencyMinusOne hw else n
  if n < 2 then 2 else n

/-- `hcv_early_initialize`: the number of threads. -/
def earlyInitialize (hw : Nat) (getenv : Text → Option Text) : Nat :=
  -- the name of the variable is written with a dollar
  match getenv "$HELPCOVID_NBWORKERTHREADS".toList with
  | some v => clampEarly hw (toUnsigned (atoi v))
  | none => clampEarly hw 8

/-- `hcv_progargs` and the global variables before the options are parsed. -/
def startArguments (maxThreads : Nat) : ProgArguments :=
  ⟨[], [], [], [], [], [], [], [], false, false, false, maxThreads, none⟩

section Parsing

variable (setlocale : Text → Option Text) (hw : Nat)

/-- `hcv_parse1opt` -/
def parse1opt (p : ProgArguments) : ProgOption × Text → Except Fatal ProgArguments
  | (.debug, _) => .ok { p with debugging := true }
  | (.cleanup, _) => .ok { p with shouldCleanup := true }
  | (.webUrl, arg) => .ok { p with weburl := arg }
  | (.postgresUri, arg) => .ok { p with postgresuri := arg }
  | (.config, arg) => .ok { p with config := arg }
  | (.writePid, arg) => .ok { p with pidfile := arg }
  | (.threads, arg) => .ok { p with httpMaxThreads := clampThreads hw (toUnsigned (atoi arg)) }
  | (.webRoot, arg) => .ok { p with webroot := arg }
  | (.locale, arg) =>
      -- a locale that is not accepted only gives a warning
      .ok { p with currentLocale := (setlocale arg).or p.currentLocale }
  | (.webSslCert, arg) => .ok { p with opensslcert := arg }
  | (.webSslKey, arg) => .ok { p with opensslkey := arg }
  | (.clearDatabase, _) => .ok { p with shouldClearDatabase := true }
  -- the switch has no case for it
  | (.setEuid, _) => .error (.unknownOption .setEuid)

/-- The default of a program argument: an environment variable. -/
def orGetenv (getenv : Text → Option Text) (name : String) (arg : Text) : Text :=
  if arg.isEmpty then (getenv name.toList).getD arg else arg

/-- The defaults of `hcv_parse_program_arguments`. -/
def suitableDefaults (getenv : Text → Option Text) (p : ProgArguments) : ProgArguments :=
  { p with
    weburl := orGetenv getenv "HELPCOVID_URL" p.weburl
    postgresuri := orGetenv getenv "HELPCOVID_POSTGRESQL" p.postgresuri
    webroot := orGetenv getenv "HELPCOVID_WEBROOT" p.webroot
    seteuid := orGetenv getenv "HELPCOVID_SETEUID" p.seteuid
    opensslcert := orGetenv getenv "HELPCOVID_SSLCERT" p.opensslcert
    opensslkey := orGetenv getenv "HELPCOVID_SSLKEY" p.opensslkey
    pidfile := orGetenv getenv "HELPCOVID_PIDFILE" p.pidfile }

/-- `hcv_early_initialize` and `hcv_parse_program_arguments`. -/
def parseProgramArguments (getenv : Text → Option Text) (args : List (ProgOption × Text)) :
    Except Fatal ProgArguments := do
  let p ← args.foldlM (parse1opt setlocale hw) (startArguments (earlyInitialize hw getenv))
  .ok (suitableDefaults getenv p)

end Parsing

/-! ## What the options leave behind -/

/-- The values an option is given, in their order. -/
def optionArgs (o : ProgOption) (args : List (ProgOption × Text)) : List Text :=
  (args.filter fun a => a.1 = o).map Prod.snd

/-- The value that counts: the last one. -/
def optionValue (o : ProgOption) (args : List (ProgOption × Text)) : Option Text :=
  (optionArgs o args).getLast?

section Fold

variable {setlocale : Text → Option Text} {hw : Nat}

/-- What one option does to the program arguments. -/
structure OneOption (setlocale : Text → Option Text) (hw : Nat) (p : ProgArguments)
    (a : ProgOption × Text) (p' : ProgArguments) : Prop where
  weburl : p'.weburl = if a.1 = .webUrl then a.2 else p.weburl
  webroot : p'.webroot = if a.1 = .webRoot then a.2 else p.webroot
  opensslcert : p'.opensslcert = if a.1 = .webSslCert then a.2 else p.opensslcert
  opensslkey : p'.opensslkey = if a.1 = .webSslKey then a.2 else p.opensslkey
  postgresuri : p'.postgresuri = if a.1 = .postgresUri then a.2 else p.postgresuri
  seteuid : p'.seteuid = if a.1 = .setEuid then a.2 else p.seteuid
  pidfile : p'.pidfile = if a.1 = .writePid then a.2 else p.pidfile
  httpMaxThreads : p'.httpMaxThreads =
    if a.1 = .threads then clampThreads hw (toUnsigned (atoi a.2)) else p.httpMaxThreads
  currentLocale : p'.currentLocale =
    if a.1 = .locale then (setlocale a.2).or p.currentLocale else p.currentLocale

theorem oneOption_of_ok {p p' : ProgArguments} {a : ProgOption × Text}
    (h : parse1opt setlocale hw p a = .ok p') : OneOption setlocale hw p a p' := by
  rcases a with ⟨o, arg⟩
  cases o <;> cases h <;> constructor <;> rfl

/-- A variable that one option changes, and the others leave alone. -/
theorem foldlM_parse1opt {α : Type} (get : ProgArguments → α) (o : ProgOption)
    (upd : α → Text → α)
    (hget : ∀ p a p', parse1opt setlocale hw p a = .ok p' →
      get p' = if a.1 = o then upd (get p) a.2 else get p)
    {args : List (ProgOption × Text)} {p p' : ProgArguments}
    (h : args.foldlM (parse1opt setlocale hw) p = .ok p') :
    get p' = (optionArgs o args).foldl upd (get p) := by
  induction args generalizing p with
  | nil =>
      obtain rfl : p = p' := Except.ok.inj h
      rfl
  | cons a args ih =>
      rcases Machine.ok_of_foldlM_cons h with ⟨q, hstep, hrest⟩
      rw [ih hrest, hget p a q hstep]
      by_cases ho : a.1 = o <;> simp [optionArgs, ho]

theorem foldl_last {α β : Type} (f : β → α) (x : α) (l : List β) :
    l.foldl (fun _ b => f b) x = (l.getLast?.map f).getD x := by
  induction l generalizing x with
  | nil => rfl
  | cons b l ih =>
      rw [List.foldl_cons, ih, List.getLast?_cons]
      cases l.getLast? <;> rfl

/-- A variable that one option sets. -/
theorem foldlM_parse1opt_last {α : Type} (get : ProgArguments → α) (o : ProgOption)
    (f : Text → α)
    (hget : ∀ p a p', parse1opt setlocale hw p a = .ok p' →
      get p' = if a.1 = o then f a.2 else get p)
    {args : List (ProgOption × Text)} {p p' : ProgArguments}
    (h : args.foldlM (parse1opt setlocale hw) p = .ok p') :
    get p' = ((optionValue o args).map f).getD (get p) := by
  rw [foldlM_parse1opt get o (fun _ arg => f arg) hget h, foldl_last, optionValue]

/-- The options are accepted when `--seteuid` is not among them, and only then. -/
theorem foldlM_parse1opt_isOk_iff (args : List (ProgOption × Text)) (p : ProgArguments) :
    (∃ p', args.foldlM (parse1opt setlocale hw) p = .ok p') ↔ ∀ a ∈ args, a.1 ≠ .setEuid := by
  induction args generalizing p with
  | nil => exact iff_of_true ⟨p, rfl⟩ (by simp)
  | cons a args ih =>
      rw [List.foldlM_cons, List.forall_mem_cons]
      rcases a with ⟨o, arg⟩
      cases o with
      | setEuid => exact iff_of_false (fun ⟨_, h⟩ => nomatch h) (fun h => h.1 rfl)
      | _ => exact (ih _).trans (iff_and_self.mpr fun _ => by simp)

end Fold

end HelpCovid.Startup
