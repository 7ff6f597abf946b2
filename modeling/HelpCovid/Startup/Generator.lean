import HelpCovid.Lib.PyText
import HelpCovid.Startup.Precedence
import HelpCovid.Startup.WebServer

/-!
# The configuration generator and the server

`generate-config.py` writes the configuration file that the server reads. It
spells the key of the SSL key `sskey`, and the server, which looks for `sslkey`,
falls back to plain HTTP (`setUp_generated_iff`).
-/

namespace HelpCovid.Startup

open CText

/-! ## The generator -/

/-- What `input()` returns, or another text of one line. -/
structure OneLine where
  text : Text
  single : '\n' ∉ text

/-- Where and when the generator runs. -/
structure Surroundings where
  /-- `os.getcwd()` -/
  cwd : OneLine
  /-- `os.path.expanduser('~')` -/
  home : OneLine
  timestamp : OneLine

/-- What is entered. -/
structure Answers where
  url : OneLine
  root : OneLine
  sslcert : OneLine
  sslkey : OneLine
  connection : OneLine
  passfile : OneLine
  datacontroller : OneLine

/-- `input(..).strip() or prefill` -/
def OneLine.or (input : OneLine) (prefill : Text) : Text :=
  if (PyText.strip input.text).isEmpty then prefill else PyText.strip input.text

/-- A final slash, if it is missing. -/
def withSlash (val : Text) : Text := if val.getLast? = some '/' then val else val ++ ['/']

/-- The text `write_key_value_pair` writes. -/
def writeKeyValuePair (key : String) (suffixSlash : Bool) (prefill : Text) (input : OneLine) : Text :=
  let val := input.or prefill
  let val := if suffixSlash then withSlash val else val
  key.toList ++ '=' :: val ++ ['\n']

/-- The prefill of the URL. -/
def prefillUrl : Text := "http://localhost:8089/".toList

/-- The prefill of the document root. -/
def prefillRoot (w : Surroundings) : Text := w.cwd.text ++ "/webroot/".toList

/-- The prefill of the connection string. -/
def prefillConnection : Text :=
  ("dbname=helpcovid_db user=helpcovid_usr password=passwd1234 " ++
    "hostaddr=127.0.0.1 port=5432").toList

/-- The prefill of the password file. -/
def prefillPassfile (w : Surroundings) : Text := w.home.text ++ "/.helpcovid-pg-password".toList

/-- The prefill of the data controller. -/
def prefillDatacontroller : Text :=
  "<a href=\"mailto:john.doe@example.org>John Doe</a>".toList

/-- `create_configuration_file`: the text of `~/.helpcovidrc`. -/
def createConfigurationFile (w : Surroundings) (a : Answers) : Text :=
  "[web]\n\n".toList ++
  writeKeyValuePair "url" true prefillUrl a.url ++
  writeKeyValuePair "root" true (prefillRoot w) a.root ++
  writeKeyValuePair "sslcert" false [] a.sslcert ++
  writeKeyValuePair "sskey" false [] a.sslkey ++
  "\n[postgresql]\n\n".toList ++
  writeKeyValuePair "connection" false prefillConnection a.connection ++
  writeKeyValuePair "passfile" false (prefillPassfile w) a.passfile ++
  "\n[html]\n\n".toList ++
  writeKeyValuePair "hcv_datacontroller_tag" false prefillDatacontroller a.datacontroller ++
  "\n# generated on ".toList ++ w.timestamp.text ++ "\n".toList ++
  "# end of generated file ~/.helpcovidrc\n".toList

/-! ## What is asked for -/

/-- The arguments of `hcv_initialize_web` that were entered. -/
def Answers.web (w : Surroundings) (a : Answers) : WebArguments :=
  ⟨withSlash (a.url.or prefillUrl), withSlash (a.root.or (prefillRoot w)), a.sslcert.or [],
    a.sslkey.or []⟩

/-- The server was started with what was entered. -/
def SetUp (w : Surroundings) (a : Answers) (r : Except Fatal Start) : Prop :=
  ∃ st, r = .ok st ∧ st.web = some (a.web w) ∧ st.connstr = a.connection.or prefillConnection

/-- No option and no environment variable stands in the way of the file. -/
structure NotOverridden (s : Sources) : Prop where
  options : ∀ a ∈ s.args,
    a.1 ∉ [ProgOption.webUrl, .webRoot, .webSslCert, .webSslKey, .postgresUri, .setEuid]
  environment : ∀ x ∈ [Setting.webUrl, .webRoot, .sslCert, .sslKey, .postgresql],
    nonempty (s.getenv x.envName.toList) = none

/-! ## The lines of the file -/

theorem OneLine.single_or {input : OneLine} {prefill : Text} (h : '\n' ∉ prefill) :
    '\n' ∉ input.or prefill := by
  unfold OneLine.or
  split
  · exact h
  · exact fun hmem => input.single (PyText.mem_of_mem_strip hmem)

theorem single_withSlash {val : Text} (h : '\n' ∉ val) : '\n' ∉ withSlash val := by
  unfold withSlash
  split
  · exact h
  · simpa using h

theorem getLast?_withSlash (val : Text) : (withSlash val).getLast? = some '/' := by
  unfold withSlash
  split
  · assumption
  · simp

theorem withSlash_ne_nil (val : Text) : withSlash val ≠ [] := by
  intro hnil
  have hslash := getLast?_withSlash val
  rw [hnil] at hslash
  cases hslash

theorem single_pair {key val : Text} (hkey : '\n' ∉ key) (hval : '\n' ∉ val) :
    '\n' ∉ key ++ '=' :: val := by
  simp only [List.mem_append, List.mem_cons, not_or]
  exact ⟨hkey, by decide, hval⟩

/-- The lines of the file. -/
def configurationLines (w : Surroundings) (a : Answers) : List Text :=
  ["[web]".toList, [],
    "url".toList ++ '=' :: withSlash (a.url.or prefillUrl),
    "root".toList ++ '=' :: withSlash (a.root.or (prefillRoot w)),
    "sslcert".toList ++ '=' :: a.sslcert.or [],
    "sskey".toList ++ '=' :: a.sslkey.or [], [],
    "[postgresql]".toList, [],
    "connection".toList ++ '=' :: a.connection.or prefillConnection,
    "passfile".toList ++ '=' :: a.passfile.or (prefillPassfile w), [],
    "[html]".toList, [],
    "hcv_datacontroller_tag".toList ++ '=' :: a.datacontroller.or prefillDatacontroller, [],
    "# generated on ".toList ++ w.timestamp.text,
    "# end of generated file ~/.helpcovidrc".toList]

theorem createConfigurationFile_eq (w : Surroundings) (a : Answers) :
    createConfigurationFile w a = unlines (configurationLines w a) := by
  have hweb : "[web]\n\n".toList = "[web]".toList ++ ['\n', '\n'] := by decide
  have hpostgresql : "\n[postgresql]\n\n".toList =
      '\n' :: "[postgresql]".toList ++ ['\n', '\n'] := by decide
  have hhtml : "\n[html]\n\n".toList = '\n' :: "[html]".toList ++ ['\n', '\n'] := by decide
  have hgenerated : "\n# generated on ".toList = '\n' :: "# generated on ".toList := by decide
  have hnewline : "\n".toList = ['\n'] := by decide
  have hend : "# end of generated file ~/.helpcovidrc\n".toList =
      "# end of generated file ~/.helpcovidrc".toList ++ ['\n'] := by decide
  unfold createConfigurationFile writeKeyValuePair configurationLines unlines
  rw [hweb, hpostgresql, hhtml, hgenerated, hnewline, hend]
  simp only [List.flatMap_cons, List.flatMap_nil, List.append_assoc, List.cons_append,
    List.nil_append, List.append_nil, if_true, Bool.false_eq_true, if_false]

theorem lines_createConfigurationFile (w : Surroundings) (a : Answers) :
    lines (createConfigurationFile w a) = configurationLines w a := by
  have hcwd : '\n' ∉ prefillRoot w := by
    simp only [prefillRoot, List.mem_append, not_or]
    exact ⟨w.cwd.single, by decide⟩
  have hhome : '\n' ∉ prefillPassfile w := by
    simp only [prefillPassfile, List.mem_append, not_or]
    exact ⟨w.home.single, by decide⟩
  rw [createConfigurationFile_eq]
  refine lines_unlines ?_
  simp only [configurationLines, List.forall_mem_cons]
  refine ⟨by decide, by decide, ?_, ?_, ?_, ?_, by decide, by decide, by decide, ?_, ?_, by decide,
    by decide, by decide, ?_, by decide, ?_, by decide, by simp⟩
  · exact single_pair (by decide) (single_withSlash (OneLine.single_or (by decide)))
  · exact single_pair (by decide) (single_withSlash (OneLine.single_or hcwd))
  · exact single_pair (by decide) (OneLine.single_or (by decide))
  · exact single_pair (by decide) (OneLine.single_or (by decide))
  · exact single_pair (by decide) (OneLine.single_or (by decide))
  · exact single_pair (by decide) (OneLine.single_or hhome)
  · exact single_pair (by decide) (OneLine.single_or (by decide))
  · simp only [List.mem_append, not_or]
    exact ⟨by decide, w.timestamp.single⟩

/-- The groups of the file: there is no group `helpcovid`. -/
theorem groups_createConfigurationFile (w : Surroundings) (a : Answers) :
    KeyFile.groups (createConfigurationFile w a) =
      ["web".toList, "postgresql".toList, "html".toList] := by
  rw [KeyFile.groups, lines_createConfigurationFile]
  rfl

/-- The keys of the file. -/
theorem entries_createConfigurationFile (w : Surroundings) (a : Answers) :
    KeyFile.entries (createConfigurationFile w a) =
      [("web".toList, "url".toList, withSlash (a.url.or prefillUrl)),
        ("web".toList, "root".toList, withSlash (a.root.or (prefillRoot w))),
        ("web".toList, "sslcert".toList, a.sslcert.or []),
        ("web".toList, "sskey".toList, a.sslkey.or []),
        ("postgresql".toList, "connection".toList, a.connection.or prefillConnection),
        ("postgresql".toList, "passfile".toList, a.passfile.or (prefillPassfile w)),
        ("html".toList, "hcv_datacontroller_tag".toList,
          a.datacontroller.or prefillDatacontroller)] := by
  rw [KeyFile.entries, lines_createConfigurationFile]
  rfl

/-! ## The server on the file -/

section Server

variable {setlocale : Text → Option Text} {hw : Nat} {w : Surroundings} {a : Answers} {s : Sources}

/-- What the server finds in the file. -/
structure Finds (w : Surroundings) (a : Answers) (s : Sources) : Prop where
  url : s.config .webUrl = some (withSlash (a.url.or prefillUrl))
  root : s.config .webRoot = some (withSlash (a.root.or (prefillRoot w)))
  sslCert : s.config .sslCert = some (a.sslcert.or [])
  sslKey : s.config .sslKey = none
  connection : s.config .postgresql = some (a.connection.or prefillConnection)
  helpcovid : s.keyFile.hasGroup "helpcovid".toList = false

theorem finds_of_reads (h : s.keyFile.Reads (createConfigurationFile w a)) : Finds w a s := by
  refine ⟨h.value _ _ _ ?_, h.value _ _ _ ?_, h.value _ _ _ ?_, h.noValue _ _ ?_, h.value _ _ _ ?_, ?_⟩
  · rw [KeyFile.values, entries_createConfigurationFile]
    rfl
  · rw [KeyFile.values, entries_createConfigurationFile]
    rfl
  · rw [KeyFile.values, entries_createConfigurationFile]
    rfl
  · -- the key is spelt `sskey` in the file
    rw [KeyFile.values, entries_createConfigurationFile]
    rfl
  · rw [KeyFile.values, entries_createConfigurationFile]
    rfl
  · have hnot : "helpcovid".toList ∉ KeyFile.groups (createConfigurationFile w a) := by
      rw [groups_createConfigurationFile]
      decide
    simpa using mt (h.hasGroup _).mp hnot

/-- An option that is not given leaves the setting to the file. -/
theorem early_eq_none (h : NotOverridden s) {x : Setting}
    (hx : x ∈ [Setting.webUrl, .webRoot, .sslCert, .sslKey, .postgresql]) : s.early x = none := by
  have hoption : x.option ∈
      [ProgOption.webUrl, .webRoot, .webSslCert, .webSslKey, .postgresUri, .setEuid] := by
    revert hx
    cases x <;> decide
  have hargs : optionArgs x.option s.args = [] := by
    rw [optionArgs, List.map_eq_nil_iff, List.filter_eq_nil_iff]
    intro o ho heq
    have heq : o.1 = x.option := by simpa using heq
    exact h.options o ho (heq ▸ hoption)
  rw [Sources.early, optionValue, hargs, h.environment x hx]
  rfl

/-- A server on the file starts, without a certificate and a key. -/
theorem main_generated (setlocale : Text → Option Text) (hw : Nat) (h : NotOverridden s)
    (hfile : s.keyFile.Reads (createConfigurationFile w a)) :
    ∃ st, main setlocale hw s.getenv s.keyFile s.args = .ok st ∧
      st.web = some ⟨withSlash (a.url.or prefillUrl), withSlash (a.root.or (prefillRoot w)), [], []⟩ ∧
      st.connstr = a.connection.or prefillConnection := by
  have hfinds := finds_of_reads hfile
  have hargs : ∀ a ∈ s.args, a.1 ≠ .setEuid := by
    intro o ho heq
    refine h.options o ho ?_
    rw [heq]
    decide
  obtain ⟨p, hok⟩ : ∃ p, parseProgramArguments setlocale hw s.getenv s.args = .ok p :=
    parse_isOk_iff.mpr hargs
  have hp := parsed_of_ok hok
  have hthreads : mainThreads hw s.keyFile p = .ok p.httpMaxThreads := by
    rw [mainThreads, hfinds.helpcovid]
    rfl
  have hweb : mainWeb s.keyFile p = .ok (some ⟨withSlash (a.url.or prefillUrl),
      withSlash (a.root.or (prefillRoot w)), [], []⟩) := by
    have hweburl : p.weburl = [] := by
      rw [hp.weburl, early_eq_none h (by decide)]
      rfl
    rw [mainWeb_of_config hweburl hfinds.url hfinds.root, hfinds.sslCert, hfinds.sslKey]
    rfl
  have hlocale : configLocale setlocale s.keyFile p = .ok p.currentLocale := by
    rw [configLocale, hfinds.helpcovid]
    rfl
  have htexts : configTexts s.keyFile = .ok () := by
    rw [configTexts, hfinds.helpcovid]
    rfl
  have hconnection : mainConnection s.keyFile p = .ok (a.connection.or prefillConnection) := by
    have hvalue : s.keyFile.value? "postgresql".toList "connection".toList =
        some (a.connection.or prefillConnection) := hfinds.connection
    rw [mainConnection, hp.postgresuri, early_eq_none h (by decide),
      KeyFile.hasGroup_of_value? hvalue, KeyFile.hasKey_of_value? hvalue,
      KeyFile.getString_of_value? hvalue]
    rfl
  unfold main
  rw [hok]
  simp only [bind, Except.bind, hthreads, hweb, hlocale, htexts, hconnection]
  exact ⟨_, rfl, rfl, rfl⟩

/-- It is a plain server, whatever was entered. -/
theorem initializeWeb_generated (setlocale : Text → Option Text) (hw : Nat) (h : NotOverridden s)
    (hfile : s.keyFile.Reads (createConfigurationFile w a)) :
    ∃ st args, main setlocale hw s.getenv s.keyFile s.args = .ok st ∧ st.web = some args ∧
      args.tls = none ∧ ∀ stat, initializeWeb stat args = .ok ⟨args.weburl, args.webroot, none⟩ := by
  rcases main_generated setlocale hw h hfile with ⟨st, hst, hweb, -⟩
  refine ⟨st, _, hst, hweb, rfl, fun stat => ?_⟩
  exact initializeWeb_plain stat (withSlash_ne_nil _) (getLast?_withSlash _) (.inl rfl)

/-- **The generator and the server.** The server on the generated file is set up with
what was entered exactly when no certificate and no key was entered. -/
theorem setUp_generated_iff (setlocale : Text → Option Text) (hw : Nat) (w : Surroundings)
    (a : Answers) {s : Sources} (h : NotOverridden s)
    (hfile : s.keyFile.Reads (createConfigurationFile w a)) :
    SetUp w a (main setlocale hw s.getenv s.keyFile s.args) ↔
      a.sslcert.or [] = [] ∧ a.sslkey.or [] = [] := by
  rcases main_generated setlocale hw h hfile with ⟨st, hst, hweb, hconnstr⟩
  rw [hst]
  constructor
  · rintro ⟨st', hst', hweb', -⟩
    cases hst'
    have hargs := Option.some.inj (hweb.symm.trans hweb')
    exact ⟨(congrArg WebArguments.opensslcert hargs).symm,
      (congrArg WebArguments.opensslkey hargs).symm⟩
  · rintro ⟨hcert, hkey⟩
    refine ⟨st, rfl, ?_, hconnstr⟩
    rw [hweb, Answers.web, hcert, hkey]

end Server

/-! ## A certificate and a key -/

/-- A line of input. -/
def line (t : String) (h : '\n' ∉ t.toList) : OneLine := ⟨t.toList, h⟩

/-- The generator is run by root in `/opt`. -/
def runByRoot : Surroundings where
  cwd := line "/opt" (by decide)
  home := line "/root" (by decide)
  timestamp := line "2020-05-01 12:00:00.000000" (by decide)

/-- A certificate and a key are entered. -/
def httpsAnswers : Answers where
  url := line "https://example.com:443" (by decide)
  root := line "/var/www/helpcovid" (by decide)
  sslcert := line "/etc/helpcovid/cert.pem" (by decide)
  sslkey := line "/etc/helpcovid/key.pem" (by decide)
  connection := line "dbname=helpcovid_db" (by decide)
  passfile := line "" (by decide)
  datacontroller := line "" (by decide)

/-- A server on the generated file, with no options and an empty environment. -/
def httpsServer : Sources where
  args := []
  getenv _ := none
  keyFile := KeyFile.ofText (createConfigurationFile runByRoot httpsAnswers)

theorem notOverridden_httpsServer : NotOverridden httpsServer := by
  constructor
  · intro o ho
    cases ho
  · intro x hx
    rfl

theorem setUp_generated_iff_https :
    SetUp runByRoot httpsAnswers
        (main some 8 httpsServer.getenv httpsServer.keyFile httpsServer.args) ↔
      httpsAnswers.sslcert.or [] = [] ∧ httpsAnswers.sslkey.or [] = [] :=
  setUp_generated_iff some 8 runByRoot httpsAnswers notOverridden_httpsServer
    (KeyFile.reads_ofText _)

/-- The server is started as a plain one, without the certificate and the key. -/
theorem generated_https_is_plain :
    (httpsAnswers.web runByRoot).tls =
        some ("/etc/helpcovid/cert.pem".toList, "/etc/helpcovid/key.pem".toList) ∧
      (∃ st args, main some 8 httpsServer.getenv httpsServer.keyFile httpsServer.args = .ok st ∧
        st.web = some args ∧ args.tls = none ∧
        ∀ stat, initializeWeb stat args = .ok ⟨args.weburl, args.webroot, none⟩) ∧
      ¬ SetUp runByRoot httpsAnswers
        (main some 8 httpsServer.getenv httpsServer.keyFile httpsServer.args) := by
  have htls : (httpsAnswers.web runByRoot).tls =
      some ("/etc/helpcovid/cert.pem".toList, "/etc/helpcovid/key.pem".toList) := by decide
  rcases initializeWeb_generated some 8 notOverridden_httpsServer (KeyFile.reads_ofText _) with
    ⟨st, args, hst, hweb, hplain, hserver⟩
  refine ⟨htls, ⟨st, args, hst, hweb, hplain, hserver⟩, ?_⟩
  rintro ⟨st', hst', hweb', -⟩
  obtain rfl : st = st' := Except.ok.inj (hst.symm.trans hst')
  obtain rfl : args = httpsAnswers.web runByRoot := Option.some.inj (hweb.symm.trans hweb')
  rw [htls] at hplain
  cases hplain

end HelpCovid.Startup
