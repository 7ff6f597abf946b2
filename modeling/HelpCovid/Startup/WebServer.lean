import HelpCovid.Startup.Main

/-!
# Creating the web server

`hcv_initialize_web`. What `stat` says about a path is a parameter.
-/

namespace HelpCovid.Startup

/-- What `hcv_initialize_web` looks at in a `struct stat`. -/
structure FileStat where
  isRegular : Bool
  /-- `st_mode & S_IRWXO` -/
  worldAccess : Bool
deriving Repr, DecidableEq

/-- `HCV_FATALOUT` in `hcv_initialize_web`. -/
inductive WebFatal where
  | missingWeburl
  | missingWebroot
  | noTerminatingSlash (webroot : Text)
  | statFailed (path : Text)
  | notRegular (path : Text)
  | worldReadable (key : Text)
deriving Repr, DecidableEq

/-- `hcv_webserver` with `hcv_weburl` and `hcv_webroot`. -/
structure WebServer where
  weburl : Text
  webroot : Text
  /-- the certificate and the key of an `SSLServer`; a plain `Server` has none -/
  ssl : Option (Text × Text)
deriving Repr, DecidableEq

/-- `hcv_initialize_web` -/
def initializeWeb (stat : Text → Option FileStat) (w : WebArguments) : Except WebFatal WebServer := do
  if w.weburl.isEmpty then throw .missingWeburl
  if w.webroot.isEmpty then throw .missingWebroot
  if w.webroot.getLast? ≠ some '/' then throw (.noTerminatingSlash w.webroot)
  if !w.opensslcert.isEmpty && !w.opensslkey.isEmpty then
    let some certstat := stat w.opensslcert | throw (.statFailed w.opensslcert)
    let some keystat := stat w.opensslkey | throw (.statFailed w.opensslkey)
    if !certstat.isRegular then throw (.notRegular w.opensslcert)
    if !keystat.isRegular then throw (.notRegular w.opensslkey)
    if keystat.worldAccess then throw (.worldReadable w.opensslkey)
    return ⟨w.weburl, w.webroot, some (w.opensslcert, w.opensslkey)⟩
  else return ⟨w.weburl, w.webroot, none⟩

/-- Without a certificate and a key the server is a plain one; no file is looked at. -/
theorem initializeWeb_plain (stat : Text → Option FileStat) {w : WebArguments}
    (hurl : w.weburl ≠ []) (hslash : w.webroot.getLast? = some '/')
    (hplain : w.opensslcert = [] ∨ w.opensslkey = []) :
    initializeWeb stat w = .ok ⟨w.weburl, w.webroot, none⟩ := by
  have hroot : w.webroot ≠ [] := by
    intro hnil
    rw [hnil] at hslash
    cases hslash
  have hssl : (!w.opensslcert.isEmpty && !w.opensslkey.isEmpty) = false := by
    rcases hplain with h | h <;> simp [h]
  unfold initializeWeb
  simp [hurl, hroot, hslash, hssl, pure, Except.pure]

end HelpCovid.Startup
