import HelpCovid.Startup.Options

/-!
# What `main` makes of the configuration file

The parts of `main` that turn program arguments and the configuration file into
the number of threads, the arguments of `hcv_initialize_web`, of `hcv_set_euid`
and of the database connection, the path of the pid file and the locale.
-/

namespace HelpCovid.Startup

open CText

/-- The arguments of `hcv_initialize_web`. -/
structure WebArguments where
  weburl : Text
  webroot : Text
  opensslcert : Text
  opensslkey : Text
deriving Repr, DecidableEq

/-- What `main` has set up when it starts serving. -/
structure Start where
  /-- `hcv_http_max_threads` -/
  httpMaxThreads : Nat
  /-- the call of `hcv_initialize_web`, if there was one -/
  web : Option WebArguments
  /-- the call of `hcv_set_euid`, if there was one -/
  euid : Option Text
  /-- `hcv_progargs.hcvprog_pidfile` -/
  pidfile : Text
  /-- `hcv_current_locale` -/
  currentLocale : Option Text
  /-- the connection string of `hcv_initialize_database` -/
  connstr : Text
deriving Repr, DecidableEq

/-- An exception of the key file that is not caught. -/
def uncaught {α : Type} (r : Except KeyFileError α) : Except Fatal α := r.mapError .keyFile

variable (setlocale : Text → Option Text) (hw : Nat)

/-- The number of threads, after the configuration file. -/
def mainThreads (kf : KeyFile) (p : ProgArguments) : Except Fatal Nat :=
  if kf.hasGroup "helpcovid".toList && kf.hasKey "helpcovid".toList "threads".toList then do
    let n ← uncaught (kf.getInt64 "helpcovid".toList "threads".toList)
    .ok (clampThreads hw (toUnsigned n))
  else .ok p.httpMaxThreads

/-- The call of `hcv_initialize_web`. -/
def mainWeb (kf : KeyFile) (p : ProgArguments) : Except Fatal (Option WebArguments) :=
  if !p.weburl.isEmpty then
    .ok (some ⟨p.weburl, p.webroot, p.opensslcert, p.opensslkey⟩)
  else if kf.hasGroup "web".toList then do
    if !kf.hasKey "web".toList "url".toList then
      throw (.missingKey "web".toList "url".toList)
    if !kf.hasKey "web".toList "root".toList then
      throw (.missingKey "web".toList "root".toList)
    let (sslcertstr, sslkeystr) ←
      if kf.hasKey "web".toList "sslcert".toList && kf.hasKey "web".toList "sslkey".toList then do
        let sslcertstr ← uncaught (kf.getString "web".toList "sslcert".toList)
        let sslkeystr ← uncaught (kf.getString "web".toList "sslkey".toList)
        pure (sslcertstr, sslkeystr)
      else pure ([], [])
    let url ← uncaught (kf.getString "web".toList "url".toList)
    let root ← uncaught (kf.getString "web".toList "root".toList)
    return some ⟨url, root, sslcertstr, sslkeystr⟩
  else .ok none

/-- The call of `hcv_set_euid`. -/
def mainEuid (kf : KeyFile) (p : ProgArguments) : Option Text :=
  let seteuid := (kf.value? "helpcovid".toList "seteuid".toList).getD []
  if !p.seteuid.isEmpty then some p.seteuid
  else if !seteuid.isEmpty then some seteuid
  else none

/-- The path of the pid file; from the configuration file only an absolute one. -/
def mainPidfile (kf : KeyFile) (p : ProgArguments) : Text :=
  match kf.value? "helpcovid".toList "pid_file".toList with
  | some pidpath => if pidpath.head? = some '/' then pidpath else p.pidfile
  | none => p.pidfile

/-- `hcv_config_handle_helpcovid_config_group` up to the locale. The keys before it
have to be there. -/
def configLocale (kf : KeyFile) (p : ProgArguments) : Except Fatal (Option Text) :=
  if kf.hasGroup "helpcovid".toList then do
    let _startupcmd ← uncaught (kf.getString "helpcovid".toList "startup_popen_command".toList)
    let _emailcmd ← uncaught (kf.getString "helpcovid".toList "html_email_popen_command".toList)
    let localestr ← uncaught (kf.getString "helpcovid".toList "locale".toList)
    if localestr.isEmpty then return p.currentLocale
    return (setlocale localestr).or p.currentLocale
  else .ok p.currentLocale

/-- The rest of `hcv_config_handle_helpcovid_config_group`: two more keys. -/
def configTexts (kf : KeyFile) : Except Fatal Unit :=
  if kf.hasGroup "helpcovid".toList then do
    let _textdomstr ← uncaught (kf.getString "helpcovid".toList "text_domain".toList)
    let _custmsgpath ← uncaught (kf.getString "helpcovid".toList "custom_messages_file".toList)
  else .ok ()

/-- The locale from the environment, while there is none. -/
def envLocale (getenv : Text → Option Text) (current : Option Text) : Option Text :=
  current.or ((getenv "HELPCOVID_LOCALE".toList).bind setlocale)

/-- The connection string of `hcv_initialize_database`. -/
def mainConnection (kf : KeyFile) (p : ProgArguments) : Except Fatal Text :=
  if !p.postgresuri.isEmpty then .ok p.postgresuri
  else if kf.hasGroup "postgresql".toList then
    if !kf.hasKey "postgresql".toList "connection".toList then
      .error (.missingKey "postgresql".toList "connection".toList)
    else uncaught (kf.getString "postgresql".toList "connection".toList)
  else .ok []

/-- `main`, up to the start of the background thread. -/
def main (getenv : Text → Option Text) (kf : KeyFile) (args : List (ProgOption × Text)) :
    Except Fatal Start := do
  let p ← parseProgramArguments setlocale hw getenv args
  let httpMaxThreads ← mainThreads hw kf p
  let web ← mainWeb kf p
  let euid := mainEuid kf p
  let pidfile := mainPidfile kf p
  let configured ← configLocale setlocale kf p
  configTexts kf
  let currentLocale := envLocale setlocale getenv configured
  let connstr ← mainConnection kf p
  return ⟨httpMaxThreads, web, euid, pidfile, currentLocale, connstr⟩

end HelpCovid.Startup
