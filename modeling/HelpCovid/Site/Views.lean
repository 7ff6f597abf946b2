import HelpCovid.Database.Login
import HelpCovid.Http.Server
import HelpCovid.Template.Agreement
import HelpCovid.Template.Builtins

/-!
# The views and the web server

What `hcv_webserver_run` gives to the server: a handler for each path, which takes
the next request number, lets a view expand a template or answer a form, and sets
the content of the response. A view gives up on a request of another method than
its own, and a handler gives up on a content that is too long; both abort the
process. An exception of a view is left to the server.

The files of the templates, the database and what is read from outside are given as
`Surroundings`; whatever is read from outside is given anew for each turn, that is for
each view that reads any of it. No plugin is loaded.
-/

namespace HelpCovid.Site

open CText Http

/-- What is put into an object for jsoncpp. -/
inductive JsonValue where
  | bool (b : Bool)
  | int (n : Int)
  | string (s : Text)
deriving Repr, DecidableEq

/-- The surroundings of the web program. -/
structure Surroundings where
  server : Template.Server
  sources : Text → Option Template.SourceFile
  database : Database.Server
  /-- `what()` of an exception of the database -/
  databaseWhat : Database.PqxxError → Text
  /-- `what()` of `std::length_error` -/
  lengthErrorWhat : Text
  /-- `Json::writeString` with the builder of the login and with that of the web -/
  writeString : List (Text × JsonValue) → Text
  writeWebString : List (Text × JsonValue) → Text
  /-- the two status pages, for a turn and a number of requests -/
  statusJson : Nat → BitVec 64 → Text
  statusHtml : Nat → BitVec 64 → Text
  /-- what the markups of a page read -/
  reading : Nat → Nat → Template.Reading
  /-- what a fresh cookie takes -/
  bytes : Nat → Nat → UInt8
  redraws : Nat
  around : Nat → Web.Surroundings
  insertion : Nat → Web.Insertion

/-- What the handlers change. -/
structure State where
  /-- `hcv_web_request_counter`, an `std::atomic<long>` -/
  requestCounter : BitVec 64
  turn : Nat
  tables : Database.Tables
  cookies : List Web.WebCookieRow

/-- What a view comes to: a text or an exception. -/
inductive Viewed where
  | returned (text : Text)
  | raised (what : Text)
deriving Repr, DecidableEq

/-- A view gets the request, the response and the number of the request. -/
abbrev View := Request → Response → BitVec 64 → State → Except Stop (Viewed × Response × State)

def State.nextTurn (s : State) : State := { s with turn := s.turn + 1 }

/-- The template data of a request. -/
def templateData (req : Request) (reqnum : BitVec 64) : Template.TemplateData :=
  ⟨⟨req.method, req.path, getHeaderValue req.headers "Accept-Language".toList⟩, reqnum.toInt⟩

section Web

variable (site : Surroundings)

/-! ## Views -/

/-- `hcv_expand_template_file` of a file under the web root. -/
def expandTemplateFile (srcfilepath : Text) (req : Request) (reqnum : BitVec 64) (s : State) :
    Except Stop Viewed :=
  match Template.expandPage site.server (templateData req reqnum) (site.reading s.turn) site.sources
    srcfilepath with
  | .ok text => .ok (.returned text)
  | .error (.scan .lengthError) => .ok (.raised site.lengthErrorWhat)
  | .error (.scan .outOfFuel) => .error .hang
  | .error _ => .error .terminate

/-- A file of `hcv_get_web_root()`. -/
def webrootFile (name : String) : Text := site.server.webroot ++ name.toList

/-- `HCV_HTML_RESPONSE_MAX_LEN` -/
def htmlResponseMaxLen : Nat := 128 * 1024

/-- `HCV_JSON_RESPONSE_MAX_LEN` -/
def jsonResponseMaxLen : Nat := 256 * 1024

/-- The views that expand a template and do no more. -/
def templateView (srcfilepath : Text) : View := fun req res reqnum s => do
  if req.method ≠ "GET".toList then throw .terminate
  let html ← expandTemplateFile site srcfilepath req reqnum s
  return (html, res, s.nextTurn)

/-- `hcv_login_view_get` -/
def loginViewGet : View := templateView site (webrootFile site "html/login.html")

/-- `hcv_profile_view_get` -/
def profileViewGet : View := templateView site (webrootFile site "html/profile.html")

/-- `forgetcookie` -/
def forgetcookie : Text :=
  "HelpCovid_COOKIE=; Expires=Thu, 01 Jan 1970 01:02:03 GMT".toList

/-- `hcv_web_forget_cookie`; the template data has a request and a response. -/
def webForgetCookie (res : Response) : Response :=
  res.setHeader "Set-Cookie".toList forgetcookie

/-- `hcv_home_view_get`, which shows the login page. -/
def homeViewGet : View := fun req res reqcnt s => do
  if req.method ≠ "GET".toList then throw .terminate
  match ← expandTemplateFile site (webrootFile site "html/login.html") req reqcnt s with
  | .raised what => return (.raised what, res, s.nextTurn)
  | .returned text =>
      if ¬ text.length < htmlResponseMaxLen then throw .terminate
      return (.returned text, webForgetCookie res, s.nextTurn)

/-- `hcv_register_view_get`. The cookie is registered, and its header set, before the page
is expanded. -/
def registerViewGet : View := fun req res reqnum s => do
  if req.method ≠ "GET".toList then throw .terminate
  match Web.registerFreshCookie (site.bytes s.turn) (site.around s.turn) site.redraws
    (some ⟨some req.headers, some res.headers⟩) (site.insertion s.turn) s.cookies with
  | none => throw .hang
  | some (.error _) => throw .terminate
  | some (.ok reg) =>
      let html ← expandTemplateFile site (webrootFile site "html/register.html") req reqnum s
      return (html, { res with headers := reg.response.getD res.headers },
        { s.nextTurn with cookies := reg.rows })

/-- The object that answers a login. -/
def loginAnswer (status : Bool) : List (Text × JsonValue) :=
  let msgEn := if status then "OK" else
    "Your e-mail address and password do not match. Please try again."
  let msgFr := if status then "OK" else
    "Votre adresse e-mail et votre mot de  passe ne correspondent pas. Veuillez réessayer."
  [("status".toList, .bool status), ("msg_en".toList, .string msgEn.toList),
    ("msg_fr".toList, .string msgFr.toList)]

/-- `hcv_login_view_post` -/
def loginViewPost : View := fun req res _ s => do
  if req.method ≠ "POST".toList then throw .terminate
  let email := getParamValue req.params "email".toList
  let passwd := getParamValue req.params "password".toList
  match Database.userModelAuthenticate site.database email passwd s.tables with
  | .error e => return (.raised (site.databaseWhat e), res, s)
  | .ok (status, tables) =>
      return (.returned (site.writeString (loginAnswer status)), res, { s with tables := tables })

/-- The object that answers a registration, which is not implemented. -/
def registerAnswer (path : Text) (reqnum : BitVec 64) : List (Text × JsonValue) :=
  [("unimplemented_cxx_function".toList, .string "hcv_expand_template_file".toList),
    ("unimplemented_request_number".toList, .int reqnum.toInt),
    ("unimplemented_request_path".toList, .string (cstr path)),
    ("unimplemented_cxx_file".toList, .string "hcv_views.cc".toList),
    ("unimplemented_cxx_line".toList, .int 211),
    ("gitid".toList, .string (cstr site.server.gitid))]

/-- `hcv_register_view_post` -/
def registerViewPost : View := fun req res reqnum s => do
  if req.method ≠ "POST".toList then throw .terminate
  return (.returned (site.writeWebString (registerAnswer site req.path reqnum)), res, s)

/-! ## Handlers -/

/-- `hcv_incremented_request_counter` -/
def incrementedRequestCounter (s : State) : BitVec 64 × State :=
  (s.requestCounter + 1, { s with requestCounter := s.requestCounter + 1 })

/-- The handlers that set what a view returns; some do not look at its length. -/
def viewHandler (view : View) (maxLen : Option Nat) (contentType : String) : Handler State :=
  fun req res s => do
    let (reqcnt, s) := incrementedRequestCounter s
    match ← view req res reqcnt s with
    | (.raised what, res, s) => return (.raised what res, s)
    | (.returned text, res, s) =>
        if maxLen.any (· < text.length) then throw .terminate
        return (.returned (res.setContent text contentType.toList), s)

/-- The handlers of the two status pages; a number that is not positive is not shown. -/
def statusHandler (status : Nat → BitVec 64 → Text) (contentType : String) : Handler State :=
  fun _ res s =>
    let (reqcnt, s) := incrementedRequestCounter s
    let reqcnt := if reqcnt.toInt ≤ 0 then 1 else reqcnt
    .ok (.returned (res.setContent (cstr (status s.turn reqcnt)) contentType.toList), s.nextTurn)

/-- The handlers that are not implemented. -/
def idleHandler : Handler State := fun _ res s =>
  .ok (.returned res, (incrementedRequestCounter s).2)

/-- `builtin_error_html`, line by line. -/
def builtinErrorLines : List Text :=
  ["<!DOCTYPE html>",
    "<html>",
    "<head>",
    " <meta charset=\"utf-8\">",
    " <title>HelpCovid builtin error</title>",
    "</head>",
    "<body>",
    "<h1>HelpCovid builtin error</h1>",
    "  <p>Please ask the webmaster to add a proper <tt>html/error.html</tt> file.<br/></p>",
    "  <p>Error on <?hcv now?> for request #<?hcv request_number?> to <?hcv request_method?> of <?hcv request_path?>.<br/>",
    "    HelpCovid git <tt><?hcv gitid?></tt> pid <?hcv pid?> on <tt><i><?hcv hostname?></i></tt>.<br/> ",
    "    Please go back to <a href='/'>root webpage</a>.",
    "  </p>",
    "</body>",
    "</html>"].map String.toList

def builtinErrorHtml : Text := unlines builtinErrorLines

/-- The builtin closures without those that abort, which the builtin page has no markup
for. -/
def totalDict (tdata : Template.TemplateData) : Template.ExpanderDict Template.Reading where
  entries := StdMap.insertAll ∅ (Template.builtins.map fun builtin =>
    (builtin.1, fun reading call => (builtin.2 site.server tdata reading call).toOption.getD []))
  checked := by
    intro name hmem
    rcases (StdMap.mem_insertAll_iff _ _).mp hmem with hempty | ⟨e, he, rfl⟩
    · exact absurd hempty (by simp)
    · rcases List.mem_map.mp he with ⟨builtin, hbuiltin, rfl⟩
      exact Template.checkName_builtins builtin hbuiltin

/-- Whether there is an error page that starts with `HCV_HTML5_START`. -/
def goodhtml (errfilpath : Text) : Bool :=
  site.server.webroot.head? == some '/' &&
    match site.sources errfilpath with
    | none => false
    | some src => src.isRegular && "<!DOCTYPE html".toList.isPrefixOf src.contents

/-- What `hcv_web_error_handler` shows. -/
def errorPage (req : Request) (reqnum : BitVec 64) (s : State) : Except Stop Viewed :=
  let errfilpath := webrootFile site "/html/error.html"
  if goodhtml site errfilpath then expandTemplateFile site errfilpath req reqnum s
  else
    match Template.expandTemplateString (totalDict site (templateData req reqnum))
      (site.reading s.turn) builtinErrorHtml (some "*builtin-error*".toList) [] with
    | .ok (text, _) => .ok (.returned text)
    | .error .lengthError => .ok (.raised site.lengthErrorWhat)
    | .error .outOfFuel => .error .hang
    | .error (.fatal _) => .error .terminate

/-- `hcv_web_error_handler`, with the number of the last request that was counted. -/
def webErrorHandler : Handler State := fun req res s => do
  match ← errorPage site req s.requestCounter s with
  | .raised what => return (.raised what res, s.nextTurn)
  | .returned text =>
      return (.returned (res.setContent (cstr text) "text/html".toList), s.nextTurn)

/-! ## The server -/

/-- `std::regex_match` with a pattern of characters and dots. -/
def matchPattern (pattern : String) (path : Text) : Bool :=
  pattern.toList.length == path.length &&
    (pattern.toList.zip path).all fun (p, c) => if p = '.' then isDot c else p == c

/-- `^/?$` -/
def matchRoot (path : Text) : Bool := path == [] || path == ['/']

/-- `hcv_http_payload_max` -/
def httpPayloadMax : Nat := 16 * 1024 * 1024

/-- `hcv_webserver` once `hcv_initialize_web` and `hcv_webserver_run` have set it up. -/
def webserver : Http.Server State where
  baseDirs := [("/".toList, site.server.webroot)]
  getHandlers :=
    [(matchPattern "/status.json", statusHandler site.statusJson "application/json"),
      (matchPattern "/status.html", statusHandler site.statusHtml "text/html"),
      (matchPattern "/ajax/", idleHandler),
      (matchPattern "", viewHandler (homeViewGet site) (some htmlResponseMaxLen) "text/html"),
      (matchPattern "/", viewHandler (homeViewGet site) none "text/html"),
      (matchRoot, viewHandler (homeViewGet site) (some htmlResponseMaxLen) "text/html"),
      (matchPattern "/login",
        viewHandler (loginViewGet site) (some htmlResponseMaxLen) "text/html"),
      (matchPattern "/register",
        viewHandler (registerViewGet site) (some htmlResponseMaxLen) "text/html"),
      (matchPattern "/profile",
        viewHandler (profileViewGet site) (some htmlResponseMaxLen) "text/html"),
      (matchPattern "/images/", idleHandler)]
  postHandlers :=
    [(matchPattern "/ajax/", idleHandler),
      (matchPattern "/ajax/login",
        viewHandler (loginViewPost site) (some jsonResponseMaxLen) "application/json"),
      (matchPattern "/register",
        viewHandler (registerViewPost site) (some jsonResponseMaxLen) "application/json")]
  putHandlers := []
  patchHandlers := []
  deleteHandlers := []
  optionsHandlers := []
  errorHandler := some (webErrorHandler site)
  payloadMaxLength := httpPayloadMax

end Web

end HelpCovid.Site
