import HelpCovid.Http.Conversation
import HelpCovid.Site.Views

/-!
# The pages

Four paths are answered with an expanded template. A client that asks for any of
them, over one connection, reads the pages in the order of its requests, each
expanded for its own request and with the next request number (`pages_received`).

The library hands requests of the method `HEAD` to the handlers of `GET`, and the
views give up on them: whoever asks for the headers of a page ends the process
(`head_ends`).
-/

namespace HelpCovid.Site

open CText Http Machine

/-- The pages of `hcv_webserver_run`. -/
inductive Page where
  | home
  | login
  | register
  | profile
deriving Repr, DecidableEq

namespace Page

def path : Page → Text
  | home => "/".toList
  | login => "/login".toList
  | register => "/register".toList
  | profile => "/profile".toList

def view (site : Surroundings) : Page → View
  | home => homeViewGet site
  | login => loginViewGet site
  | register => registerViewGet site
  | profile => profileViewGet site

/-- The length that the handler looks at; the view of the home page has its own. -/
def maxLen : Page → Option Nat
  | home => none
  | login => some htmlResponseMaxLen
  | register => some htmlResponseMaxLen
  | profile => some htmlResponseMaxLen

/-- The template of a page. -/
def file (site : Surroundings) : Page → Text
  | home => webrootFile site "html/login.html"
  | login => webrootFile site "html/login.html"
  | register => webrootFile site "html/register.html"
  | profile => webrootFile site "html/profile.html"

end Page

section Pages

variable (site : Surroundings) (env : Environment)

/-- The handler of a page is the first whose pattern matches its path. -/
theorem find?_page (page : Page) :
    ∃ pattern, (webserver site).getHandlers.find? (fun h => h.1 page.path) =
      some (pattern, viewHandler (page.view site) page.maxLen "text/html") := by
  cases page <;> exact ⟨_, rfl⟩

/-- What the expansion of a page comes to. -/
def Page.expand (page : Page) (tdata : Template.TemplateData) (turn : Nat) :
    Except Template.PageFailure Text :=
  Template.expandPage site.server tdata (site.reading turn) site.sources (page.file site)

/-- The page for a client's request that gets a number. -/
def pageText (r : ClientRequest) (page : Page) (reqnum : BitVec 64) (turn : Nat) :
    Except Template.PageFailure Text :=
  page.expand site
    ⟨⟨r.method, page.path, getHeaderValue r.fields "Accept-Language".toList⟩, reqnum.toInt⟩ turn

/-- A fresh cookie can always be registered. -/
def GivesCookies : Prop :=
  ∀ turn, ∃ text drawn now id,
    Web.drawRandombuf (site.bytes turn) site.redraws Web.randomstrWidth 0 0 = some (text, drawn) ∧
      (site.around turn).clock = some now ∧ Web.GivesId (site.insertion turn) id

/-- Every page can be shown: its template is expanded and is not too long, and a cookie
can be registered. -/
structure Presentable : Prop where
  rendered : ∀ page tdata turn, ∃ text,
    Page.expand site page tdata turn = .ok text ∧ text.length < htmlResponseMaxLen
  cookie : GivesCookies site

/-- A client asks for a page; no file stands in for it. -/
structure AsksFor (r : ClientRequest) (page : Page) : Prop where
  form : WellFormed (webserver site) env r
  path : decodeUrl (r.target.takeWhile (· != '?')) false = page.path
  file : handleFileRequest env.files (webserver site).baseDirs page.path freshResponse = none

/-! ## One page -/

theorem isPlainHeader_cookieHeader {text : Text} (h : Web.IsRandomstr text) (id : BitVec 64)
    (webhash : BitVec 32) :
    IsPlainHeader ("Set-Cookie".toList, Web.cookieHeader (Web.cookieText id text webhash)) := by
  have hplain : ∀ d, d ∉ Web.cookieNameEq → d ∉ Web.agebuf → d.isAlphanum ≠ true →
      isHexDigit d ≠ true → d ≠ '-' → d ∉ Web.cookieHeader (Web.cookieText id text webhash) := by
    intro d hname hage halnum hhex hdash
    simp only [Web.cookieHeader, List.mem_append, not_or]
    exact ⟨⟨hname, Web.notMem_cookieText h id webhash halnum hhex hdash⟩, hage⟩
  have hnul := hplain '\x00' (by decide) (by decide) (by decide) (by decide) (by decide)
  have hcr := hplain '\r' (by decide) (by decide) (by decide) (by decide) (by decide)
  have hlf := hplain '\n' (by decide) (by decide) (by decide) (by decide) (by decide)
  have hname : Web.cookieNameEq = 'H' :: "elpCovid_COOKIE=".toList := by decide
  have hage : Web.agebuf = "; Max-Age=540".toList ++ ['0'] := by decide
  have hkey : "Set-Cookie".toList ≠ [] ∧ (':' ∉ "Set-Cookie".toList ∧ '\n' ∉ "Set-Cookie".toList) ∧
      '\x00' ∉ "Set-Cookie".toList ∧
      framingKeys.contains ("Set-Cookie".toList.map Char.toLower) = false := by decide
  refine ⟨⟨hkey.1, hkey.2.1, ?_, ?_, ?_, ?_⟩, hkey.2.2.1, hnul, hkey.2.2.2⟩
  · rw [Web.cookieHeader, hname]
    simp
  · rw [List.all_eq_true]
    intro c hc
    rw [isDot, Bool.and_eq_true, bne_iff_ne, bne_iff_ne]
    exact ⟨fun heq => hlf (heq ▸ hc), fun heq => hcr (heq ▸ hc)⟩
  · intro c hc
    rw [Web.cookieHeader, hname] at hc
    simp only [List.cons_append, List.head?_cons, Option.mem_some_iff] at hc
    rw [← hc]
    rfl
  · intro c hc
    rw [Web.cookieHeader, hage, ← List.append_assoc, List.getLast?_concat] at hc
    rw [← Option.mem_some_iff.mp hc]
    rfl

variable {site env}

theorem expandTemplateFile_ok {srcfilepath : Text} {req : Request} {reqnum : BitVec 64} {s : State}
    {text : Text} (h : Template.expandPage site.server (templateData req reqnum)
      (site.reading s.turn) site.sources srcfilepath = .ok text) :
    expandTemplateFile site srcfilepath req reqnum s = .ok (.returned text) := by
  rw [expandTemplateFile, h]

theorem expandTemplateFile_lengthError {srcfilepath : Text} {req : Request} {reqnum : BitVec 64}
    {s : State} (h : Template.expandPage site.server (templateData req reqnum)
      (site.reading s.turn) site.sources srcfilepath = .error (.scan .lengthError)) :
    expandTemplateFile site srcfilepath req reqnum s = .ok (.raised site.lengthErrorWhat) := by
  rw [expandTemplateFile, h]

/-- Where cookies can be registered, the page of the registration is expanded. -/
theorem registerViewGet_eq (h : GivesCookies site) {req : Request}
    (hmethod : req.method = "GET".toList) (res : Response) (reqnum : BitVec 64) (s : State) :
    ∃ header cookies, IsPlainHeader ("Set-Cookie".toList, header) ∧
      registerViewGet site req res reqnum s =
        (expandTemplateFile site (Page.register.file site) req reqnum s).map fun html =>
          (html, res.setHeader "Set-Cookie".toList header,
            { s.nextTurn with cookies := cookies }) := by
  rcases h s.turn with ⟨randombuf, drawn, now, id, hdraw, hclock, hid⟩
  have hrandom := Web.isRandomstr_of_draw (site.bytes s.turn) hdraw
  have hpos := (Web.givenId_pos_iff (site.insertion s.turn)).mpr ⟨id, hid⟩
  let hash := Web.webagentHash (site.around s.turn)
    ((Web.findHeader "User-Agent".toList req.headers).getD [])
  rcases Web.getIdOfAddedWebCookie_of_random (site.insertion s.turn) s.cookies hrandom
    (now + Web.webCookieDuration) hash with ⟨cookies, hinsert, -⟩
  have hcookie := Web.registerFreshCookie_of_draw res.headers hdraw hclock hinsert
  rw [Web.makeCookieString_eq hash hpos hrandom] at hcookie
  refine ⟨_, cookies, isPlainHeader_cookieHeader hrandom
    (Web.givenId (site.insertion s.turn)) hash, ?_⟩
  simp only [registerViewGet, if_neg (not_not.mpr hmethod), hcookie, Page.file]
  rcases expandTemplateFile site (webrootFile site "html/register.html") req reqnum s with
    stop | html <;> rfl

/-- A view shows its page and only adds plain headers. -/
theorem view_ok (h : GivesCookies site) (page : Page) {req : Request}
    (hmethod : req.method = "GET".toList) {reqnum : BitVec 64} {s : State} {text : Text}
    (htext : expandTemplateFile site (page.file site) req reqnum s = .ok (.returned text))
    (hlength : text.length < htmlResponseMaxLen) (res : Response) :
    ∃ res' cookies, page.view site req res reqnum s =
        .ok (.returned text, res', { s.nextTurn with cookies := cookies }) ∧ Extends res res' := by
  have hget : ¬ req.method ≠ "GET".toList := not_not.mpr hmethod
  cases page with
  | home =>
      refine ⟨webForgetCookie res, s.cookies, ?_, ?_⟩
      · simp only [Page.file] at htext
        simp only [Page.view, homeViewGet, if_neg hget, htext, ok_bind,
          if_neg (not_not.mpr hlength)]
        rfl
      · refine extends_setHeader res ⟨⟨?_, ?_, ?_, ?_, ?_, ?_⟩, ?_, ?_, ?_⟩ <;> decide
  | login =>
      refine ⟨res, s.cookies, ?_, .refl res⟩
      simp only [Page.file] at htext
      simp only [Page.view, loginViewGet, templateView, if_neg hget, htext, ok_bind]
      rfl
  | profile =>
      refine ⟨res, s.cookies, ?_, .refl res⟩
      simp only [Page.file] at htext
      simp only [Page.view, profileViewGet, templateView, if_neg hget, htext, ok_bind]
      rfl
  | register =>
      rcases registerViewGet_eq h hmethod res reqnum s with ⟨header, cookies, hplain, hview⟩
      refine ⟨_, cookies, ?_, extends_setHeader res hplain⟩
      rw [Page.view, hview, htext]
      rfl

/-- An exception of the expansion is left to the server. -/
theorem view_raised (h : GivesCookies site) (page : Page) {req : Request}
    (hmethod : req.method = "GET".toList) {reqnum : BitVec 64} {s : State} {what : Text}
    (hraised : expandTemplateFile site (page.file site) req reqnum s = .ok (.raised what))
    (res : Response) :
    ∃ res' s', page.view site req res reqnum s = .ok (.raised what, res', s') := by
  have hget : ¬ req.method ≠ "GET".toList := not_not.mpr hmethod
  cases page with
  | home =>
      refine ⟨res, s.nextTurn, ?_⟩
      simp only [Page.file] at hraised
      simp only [Page.view, homeViewGet, if_neg hget, hraised, ok_bind]
      rfl
  | login =>
      refine ⟨res, s.nextTurn, ?_⟩
      simp only [Page.file] at hraised
      simp only [Page.view, loginViewGet, templateView, if_neg hget, hraised, ok_bind]
      rfl
  | profile =>
      refine ⟨res, s.nextTurn, ?_⟩
      simp only [Page.file] at hraised
      simp only [Page.view, profileViewGet, templateView, if_neg hget, hraised, ok_bind]
      rfl
  | register =>
      rcases registerViewGet_eq h hmethod res reqnum s with ⟨header, cookies, -, hview⟩
      refine ⟨res.setHeader "Set-Cookie".toList header, { s.nextTurn with cookies := cookies }, ?_⟩
      rw [Page.view, hview, hraised]
      rfl

/-- Page by page, what the view of a presentable site shows. -/
theorem view_page (h : Presentable site) (page : Page) {r : ClientRequest} {req : Request}
    (hget : r.method = "GET".toList) {reqnum : BitVec 64}
    (hdata : templateData req reqnum =
      ⟨⟨r.method, page.path, getHeaderValue r.fields "Accept-Language".toList⟩, reqnum.toInt⟩)
    (res : Response) (s : State) :
    ∃ text res' cookies, page.view site req res reqnum s =
        .ok (.returned text, res', { s.nextTurn with cookies := cookies }) ∧
      pageText site r page reqnum s.turn = .ok text ∧ text.length < htmlResponseMaxLen ∧
      Extends res res' := by
  rcases h.rendered page (templateData req reqnum) s.turn with ⟨text, htext, hlength⟩
  have hmethod : req.method = "GET".toList :=
    (congrArg (fun tdata => tdata.request.method) hdata).trans hget
  rcases view_ok h.cookie page hmethod (expandTemplateFile_ok htext) hlength res with
    ⟨res', cookies, hview, hextends⟩
  exact ⟨text, res', cookies, hview, by rw [pageText, ← hdata, htext], hlength, hextends⟩

/-- A handler sets what its view returns, if it is not too long. -/
theorem viewHandler_returned {view : View} {maxLen : Option Nat} (contentType : String)
    {req : Request} {res res' : Response} {s s' : State} {text : Text}
    (hview : view req res (s.requestCounter + 1) (incrementedRequestCounter s).2 =
      .ok (.returned text, res', s'))
    (hshort : ∀ len ∈ maxLen, text.length ≤ len) :
    viewHandler view maxLen contentType req res s =
      .ok (.returned (res'.setContent text contentType.toList), s') := by
  have hany : ¬ maxLen.any (· < text.length) = true := by
    cases maxLen with
    | none => simp
    | some len => simpa using hshort len rfl
  simp only [incrementedRequestCounter] at hview
  simp only [viewHandler, incrementedRequestCounter, hview, ok_bind, if_neg hany]
  rfl

/-- It passes on what its view throws. -/
theorem viewHandler_raised {view : View} (maxLen : Option Nat) (contentType : String)
    {req : Request} {res res' : Response} {s s' : State} {what : Text}
    (hview : view req res (s.requestCounter + 1) (incrementedRequestCounter s).2 =
      .ok (.raised what, res', s')) :
    viewHandler view maxLen contentType req res s = .ok (.raised what res', s') := by
  simp only [incrementedRequestCounter] at hview
  simp only [viewHandler, incrementedRequestCounter, hview, ok_bind]
  rfl

/-- The handler of a page sets it as the content. -/
theorem viewHandler_page (h : Presentable site) (page : Page) {r : ClientRequest} {req : Request}
    (hget : r.method = "GET".toList) {s : State}
    (hdata : templateData req (s.requestCounter + 1) =
      ⟨⟨r.method, page.path, getHeaderValue r.fields "Accept-Language".toList⟩,
        (s.requestCounter + 1).toInt⟩) (res : Response) :
    ∃ text res' s', viewHandler (page.view site) page.maxLen "text/html" req res s =
        .ok (.returned res', s') ∧
      pageText site r page (s.requestCounter + 1) s.turn = .ok text ∧
      text.length < htmlResponseMaxLen ∧ res'.body = text ∧ res'.status = res.status ∧
      (Plain res.headers → Plain res'.headers) ∧
      s'.requestCounter = s.requestCounter + 1 ∧ s'.turn = s.turn + 1 := by
  rcases view_page h page hget hdata res (incrementedRequestCounter s).2 with
    ⟨text, res', cookies, hview, htext, hlength, hextends⟩
  have hshort : ∀ len ∈ page.maxLen, text.length ≤ len := by
    cases page <;> simp [Page.maxLen, hlength.le]
  have htype : IsPlainHeader ("Content-Type".toList, "text/html".toList) := by
    refine ⟨⟨?_, ?_, ?_, ?_, ?_, ?_⟩, ?_, ?_, ?_⟩ <;> decide
  have hcontent := extends_setHeader { res' with body := text } htype
  exact ⟨text, res'.setContent text "text/html".toList,
    { (incrementedRequestCounter s).2.nextTurn with cookies := cookies },
    viewHandler_returned "text/html" hview hshort, htext, hlength, rfl,
    hcontent.status.trans hextends.status, fun hplain => hcontent.plain (hextends.plain hplain),
    rfl, rfl⟩

/-- A request for a page is responded with it. -/
theorem respond_page (h : Presentable site) {page : Page} {r : ClientRequest}
    (hget : r.method = "GET".toList) (hr : AsksFor site env r page) (s : State) :
    ∃ text res s', (webserver site).respond env (r.request env []) s = .ok (res, s') ∧
      pageText site r page (s.requestCounter + 1) s.turn = .ok text ∧
      text.length < htmlResponseMaxLen ∧ res.body = text ∧ res.status = 200 ∧ Plain res.headers ∧
      s'.requestCounter = s.requestCounter + 1 ∧ s'.turn = s.turn + 1 := by
  have hexpect : expectContent r.method = false := by
    rw [hget]
    decide
  have hrequest : r.request env [] = r.head env [] := by
    rw [ClientRequest.request, hexpect]
    rfl
  have hdata : templateData (r.request env []) (s.requestCounter + 1) =
      ⟨⟨r.method, page.path, getHeaderValue r.fields "Accept-Language".toList⟩,
        (s.requestCounter + 1).toInt⟩ := by
    rw [hrequest, ← hr.path, templateData, ClientRequest.head, getHeaderValue, getHeaderValue,
      findHeader_addRemote _ (by decide) (by decide)]
  rcases viewHandler_page h page hget hdata freshResponse with
    ⟨text, res, s', hhandler, htext, hlength, hbody, hstatus, hplain, hcounter, hturn⟩
  have hroute : (webserver site).route env (r.request env []) s = .ok (true, res, s') := by
    rcases find?_page site page with ⟨pattern, hfind⟩
    have hpath : (r.request env []).path = page.path := by
      rw [hrequest, ← hr.path]
      rfl
    have hmethod : (r.request env []).method = "GET".toList := by rw [hrequest, ← hget]; rfl
    rw [Server.route, hpath, hr.file, ite_self]
    simp only [Server.dispatch, Server.handlersFor, hmethod, true_or, if_true, dispatchRequest, hpath,
      hfind, hhandler, ok_bind]
    rfl
  refine ⟨text, { res with status := 200 }, s', ?_, htext, hlength, hbody, rfl, ?_, hcounter, hturn⟩
  · have hopen : res.status = -1 := hstatus
    rw [Server.respond, hroute, ok_bind]
    simp only [Response.close, hopen, if_true, (request_fields env r []).2.2, List.isEmpty_nil]
    rfl
  · exact hplain fun e he => absurd he (List.not_mem_nil)

/-! ## A site -/

/-- Every template of the site is the same notice. -/
def noticeSite : Surroundings where
  server := {
    gitid := "0123456789abcdef".toList
    lastgitcommit := "0123456".toList
    timestamp := "Sun 13 Sep 2020".toList
    hostname := "localhost".toList
    webroot := "/w/".toList
    pid := 1234
    globchunkMap := ∅
    dgettext := id }
  sources := fun _ => some ⟨true, "Notice".toList⟩
  database := Database.noRows
  databaseWhat := fun _ => "unknown statement".toList
  lengthErrorWhat := "length error".toList
  writeString := fun _ => "{}".toList
  writeWebString := fun _ => "{}".toList
  statusJson := fun _ _ => "{}".toList
  statusHtml := fun _ _ => "status".toList
  reading := fun _ _ => ⟨"2020, Sep, 13".toList, "Sun 13 Sep 2020".toList, 7⟩
  bytes := fun _ _ => 10
  redraws := 0
  around := fun _ => Web.someSurroundings
  insertion := fun _ => .stored 1

def startState : State := ⟨0, 0, ⟨[], [], [], []⟩, []⟩

theorem expand_noticeSite (page : Page) (tdata : Template.TemplateData) (turn : Nat) :
    Page.expand noticeSite page tdata turn = .ok "Notice\n".toList := by
  cases page <;> rfl

theorem givesCookies_noticeSite : GivesCookies noticeSite := by
  have hdraw : Web.drawRandombuf (fun _ => 10) 0 Web.randomstrWidth 0 0 =
      some (List.replicate 24 'a', 24) := by decide
  exact fun _ => ⟨_, _, 1600000000, 1, hdraw, rfl, rfl, by decide⟩

theorem presentable_noticeSite : Presentable noticeSite :=
  ⟨fun page tdata turn => ⟨_, expand_noticeSite page tdata turn, by decide⟩,
    givesCookies_noticeSite⟩

/-- A request without fields. -/
def bareRequest (method target : String) : ClientRequest where
  method := method.toList
  target := target.toList
  version := "HTTP/1.1".toList
  fields := []
  content := []
  framing := []

theorem asksFor_bareRequest {method target : String} {page : Page}
    (hmethod : method.toList ∈ methods) (hexpect : expectContent method.toList = false)
    (htarget : IsTarget target.toList)
    (hshort : (requestLine method.toList target.toList "HTTP/1.1".toList ++ crlf).length ≤ 8192)
    (hpath : decodeUrl (target.toList.takeWhile (· != '?')) false = page.path) :
    AsksFor noticeSite quietEnvironment (bareRequest method target) page := by
  refine ⟨⟨⟨hmethod, htarget, by simp [bareRequest, versions], by simp [bareRequest], hshort⟩, ?_, ?_,
    ?_, fun _ => rfl⟩, hpath, ?_⟩
  · exact fun h => absurd h (by rw [bareRequest, hexpect]; decide)
  · exact fun h => absurd h (by rw [bareRequest, hexpect]; decide)
  · exact fun h => absurd h (by rw [bareRequest, hexpect]; decide)
  · cases page <;> rfl

/-! ## The pages of a connection -/

/-- What the pages that answer the first requests are to be: one number after the other,
up to the first request that closes the connection. -/
def pagesFrom (site : Surroundings) : (count : Nat) → List (ClientRequest × Page) → BitVec 64 →
    (turn : Nat) → List (Except Template.PageFailure Text)
  | 0, _, _, _ => []
  | _ + 1, [], _, _ => []
  | count + 1, (r, page) :: rs, reqcnt, turn =>
      pageText site r page (reqcnt + 1) turn ::
        if r.close then [] else pagesFrom site count rs (reqcnt + 1) (turn + 1)

/-- A response as it was given shows a page. -/
def Shows (expected : Except Template.PageFailure Text) (given : Text × Response) : Prop :=
  given.1 = "GET".toList ∧ given.2.status = 200 ∧ expected = .ok given.2.body

theorem methods_of_shows {expected : List (Except Template.PageFailure Text)}
    {given : List (Text × Response)} (h : List.Forall₂ Shows expected given) :
    given.map Prod.fst = expected.map fun _ => "GET".toList := by
  induction h with
  | nil => rfl
  | cons hshows _ ih => rw [List.map_cons, List.map_cons, hshows.1, ih]

/-- What a client got shows the page that was given. -/
theorem shown_of_matches {expected : List (Except Template.PageFailure Text)}
    {given : List (Text × Response)} {got : List Response} (h : List.Forall₂ Shows expected given)
    (hmatches : List.Forall₂ Matches given got) :
    List.Forall₂ (fun expected res => res.status = 200 ∧ expected = .ok res.body) expected got := by
  induction h generalizing got with
  | nil =>
      cases hmatches
      exact .nil
  | cons hshows _ ih =>
      cases hmatches with
      | cons hmatch hrest =>
          have hbody := hmatch.body
          rw [hshows.1, if_neg (by decide)] at hbody
          exact .cons ⟨hmatch.status.trans hshows.2.1, hbody ▸ hshows.2.2⟩ (ih hrest)

theorem responses_pages (h : Presentable site) {rs : List (ClientRequest × Page)}
    (hrs : ∀ e ∈ rs, e.1.method = "GET".toList ∧ AsksFor site env e.1 e.2) (count : Nat) (s : State) :
    ∃ given left s', (webserver site).responses env count (rs.map Prod.fst) s =
        .ok (given, left, s') ∧
      List.Forall₂ Shows (pagesFrom site count rs s.requestCounter s.turn) given ∧
      (∀ g ∈ given, Courteous g.2) ∧
      s'.requestCounter = s.requestCounter + BitVec.ofNat 64 given.length := by
  induction count generalizing rs s with
  | zero =>
      refine ⟨[], rs.map Prod.fst, s, by rw [Server.responses]; rfl, ?_, by simp, by simp⟩
      rw [pagesFrom]
      exact .nil
  | succ count ih =>
      cases rs with
      | nil => exact ⟨[], [], s, rfl, .nil, by simp, by simp⟩
      | cons e rs =>
          rcases e with ⟨r, page⟩
          rw [List.forall_mem_cons] at hrs
          rcases respond_page h hrs.1.1 hrs.1.2 s with
            ⟨text, res, s₁, hrespond, htext, hlength, hbody, hstatus, hplain, hcounter, hturn⟩
          have hshows : Shows (pageText site r page (s.requestCounter + 1) s.turn) (r.method, res) :=
            ⟨hrs.1.1, hstatus, hbody ▸ htext⟩
          have hcourteous : Courteous res := by
            refine ⟨by rw [hstatus]; decide, hplain, ?_⟩
            rw [hbody]
            exact hlength.trans (by decide)
          cases hclose : r.close with
          | true =>
              refine ⟨[(r.method, res)], rs.map Prod.fst, s₁, ?_, ?_, by simpa using hcourteous,
                hcounter⟩
              · rw [List.map_cons, Server.responses, hrespond, ok_bind, hclose]
                rfl
              · rw [pagesFrom, hclose, if_pos rfl]
                exact .cons hshows .nil
          | false =>
              rcases ih hrs.2 s₁ with ⟨given, left, s', hmore, hpages, hall, hcount⟩
              refine ⟨(r.method, res) :: given, left, s', ?_, ?_,
                List.forall_mem_cons.mpr ⟨hcourteous, hall⟩, ?_⟩
              · rw [List.map_cons, Server.responses, hrespond, ok_bind, hclose]
                simp only [Bool.false_eq_true, if_false, hmore, ok_bind]
                rfl
              · rw [pagesFrom, hclose, if_neg Bool.false_ne_true]
                rw [hcounter, hturn] at hpages
                exact .cons hshows hpages
              · rw [hcount, hcounter, List.length_cons, BitVec.add_assoc, Nat.add_comm,
                  BitVec.ofNat_add]
                rfl

/-- A client reads the pages that it asks for, in the order of its requests: each is
expanded for the request it answers, and with the number that follows on that of the page
before it. -/
theorem pages_received (h : Presentable site) {rs : List (ClientRequest × Page)}
    (hrs : ∀ e ∈ rs, e.1.method = "GET".toList ∧ AsksFor site env e.1 e.2)
    (hordinary : ∀ e ∈ rs, Ordinary env e.1) (count : Nat) (failing : Bool) (s : State) :
    ∃ written left s', (webserver site).processSocket env count
        ⟨rs.flatMap fun e => e.1.text, failing⟩ s = .ok (written, left, s') ∧
      ∀ recvSize rest failing, ∃ got,
        receiveResponses recvSize
            ((pagesFrom site count rs s.requestCounter s.turn).map fun _ => "GET".toList)
            ⟨written ++ rest, failing⟩ = some (got, ⟨rest, failing⟩) ∧
          List.Forall₂ (fun expected res => res.status = 200 ∧ expected = .ok res.body)
            (pagesFrom site count rs s.requestCounter s.turn) got ∧
          s'.requestCounter = s.requestCounter + BitVec.ofNat 64 got.length := by
  rcases responses_pages h hrs count s with ⟨given, left, s', hgiven, hpages, hplain, hcount⟩
  have hform : ∀ r ∈ rs.map Prod.fst, WellFormed (webserver site) env r := by
    intro r hr
    rcases List.mem_map.mp hr with ⟨e, he, rfl⟩
    exact (hrs e he).2.form
  have hall : ∀ r ∈ rs.map Prod.fst, Ordinary env r := by
    intro r hr
    rcases List.mem_map.mp hr with ⟨e, he, rfl⟩
    exact hordinary e he
  have hsize : (webserver site).payloadMaxLength < 2 ^ 64 := by
    show httpPayloadMax < 2 ^ 64
    decide
  rcases receiveResponses_answers hall hgiven hplain with ⟨written, hanswers, hreads⟩
  have hsocket := processSocket_pipeline hform hsize count failing s
  rw [hanswers, List.flatMap_map] at hsocket
  refine ⟨written, _, s', hsocket, fun recvSize rest failing => ?_⟩
  rcases hreads recvSize rest failing with ⟨got, hgot, hmatches⟩
  rw [methods_of_shows hpages] at hgot
  exact ⟨got, hgot, shown_of_matches hpages hmatches, by rw [hcount, hmatches.length_eq]⟩

/-- Two visits. -/
def twoPages : List (ClientRequest × Page) :=
  [(bareRequest "GET" "/login", .login), (bareRequest "GET" "/?again", .home)]

theorem pages_received_twice :
    ∃ written left s', (webserver noticeSite).processSocket quietEnvironment 5
        ⟨twoPages.flatMap fun e => e.1.text, false⟩ startState = .ok (written, left, s') ∧
      ∀ recvSize rest failing, ∃ got,
        receiveResponses recvSize ((pagesFrom noticeSite 5 twoPages 0 0).map fun _ => "GET".toList)
            ⟨written ++ rest, failing⟩ = some (got, ⟨rest, failing⟩) ∧
          List.Forall₂ (fun expected res => res.status = 200 ∧ expected = .ok res.body)
            (pagesFrom noticeSite 5 twoPages 0 0) got ∧
          s'.requestCounter = 0 + BitVec.ofNat 64 got.length := by
  have hlogin : AsksFor noticeSite quietEnvironment (bareRequest "GET" "/login") .login :=
    asksFor_bareRequest (by decide) (by decide) ⟨by decide, by decide, by decide⟩ (by decide)
      (by decide)
  have hhome : AsksFor noticeSite quietEnvironment (bareRequest "GET" "/?again") .home :=
    asksFor_bareRequest (by decide) (by decide) ⟨by decide, by decide, by decide⟩ (by decide)
      (by decide)
  refine pages_received presentable_noticeSite ?_ ?_ 5 false startState
  · exact List.forall_mem_cons.mpr ⟨⟨rfl, hlogin⟩, List.forall_mem_singleton.mpr ⟨rfl, hhome⟩⟩
  · refine List.forall_mem_cons.mpr ⟨?_, List.forall_mem_singleton.mpr ?_⟩
    · exact ⟨by decide, by decide, by decide⟩
    · exact ⟨by decide, by decide, by decide⟩

/-! ## The headers of a page -/

/-- A view gives up on a request of another method. -/
theorem view_of_method (page : Page) {req : Request} (hmethod : req.method ≠ "GET".toList)
    (res : Response) (reqnum : BitVec 64) (s : State) :
    page.view site req res reqnum s = .error .terminate := by
  cases page with
  | home => rw [Page.view, homeViewGet, if_pos hmethod]; rfl
  | login => rw [Page.view, loginViewGet, templateView, if_pos hmethod]; rfl
  | register => rw [Page.view, registerViewGet, if_pos hmethod]; rfl
  | profile => rw [Page.view, profileViewGet, templateView, if_pos hmethod]; rfl

theorem answerClient_head {page : Page} {r : ClientRequest} (hr : AsksFor site env r page)
    (hhead : r.method = "HEAD".toList) (boundary : Text) (lastConnection : Bool) (s : State) :
    (webserver site).answerClient env boundary lastConnection r s = .error .terminate := by
  have hroute : ∀ ranges, (webserver site).route env (r.request env ranges) s =
      .error .terminate := by
    intro ranges
    rcases request_fields env r ranges with ⟨hmethod, hpath, -⟩
    have hpath' : (r.request env ranges).path = page.path := hpath.trans hr.path
    rw [hhead] at hmethod
    rcases find?_page site page with ⟨pattern, hfind⟩
    have hview := @view_of_method site page (r.request env ranges)
      (by rw [hmethod]; decide) freshResponse (s.requestCounter + 1)
      (incrementedRequestCounter s).2
    rw [Server.route, hpath', hr.file, ite_self]
    simp only [Server.dispatch, Server.handlersFor, hmethod, or_true, if_true, dispatchRequest,
      hpath', hfind, viewHandler]
    simp only [incrementedRequestCounter] at hview ⊢
    rw [hview]
    rfl
  rw [Server.answerClient]
  cases hranges : readRangeField (env.addRemote r.fields) with
  | ok ranges =>
      rw [ok_bind, Server.answer, hroute ranges]
      rfl
  | error stop =>
      unfold readRangeField at hranges
      split at hranges
      · split at hranges
        · exact hranges.symm ▸ rfl
        · cases hranges
      · cases hranges

/-- Whoever asks for the headers of a page ends the process, once the requests before it
on the connection are answered. -/
theorem head_ends {page : Page} {r : ClientRequest} (hr : AsksFor site env r page)
    (hhead : r.method = "HEAD".toList) {before : List ClientRequest}
    (hbefore : ∀ q ∈ before, WellFormed (webserver site) env q ∧ q.close = false) {count : Nat}
    (hcount : before.length < count) {s : State} {answered : Text × List ClientRequest × State}
    (hanswered : (webserver site).answers env count before s = .ok answered) (rest : Text)
    (failing : Bool) :
    (webserver site).processSocket env count
      ⟨before.flatMap ClientRequest.text ++ (r.text ++ rest), failing⟩ s = .error .terminate := by
  have hsize : (webserver site).payloadMaxLength < 2 ^ 64 := by
    show httpPayloadMax < 2 ^ 64
    decide
  refine processSocket_stops hbefore hsize ?_ (fun boundary lastConnection s => ?_) hcount hanswered
  · exact List.append_ne_nil_of_left_ne_nil (text_ne_nil r) rest
  · rw [processRequest_text hr.form hsize, answerClient_head hr hhead]
    rfl

/-- The page is looked at before its headers are asked for. -/
theorem head_ends_login :
    (webserver noticeSite).processSocket quietEnvironment 5
      ⟨[bareRequest "GET" "/profile"].flatMap ClientRequest.text ++
        ((bareRequest "HEAD" "/login").text ++ []), false⟩ startState = .error .terminate := by
  have hprofile : AsksFor noticeSite quietEnvironment (bareRequest "GET" "/profile") .profile :=
    asksFor_bareRequest (by decide) (by decide) ⟨by decide, by decide, by decide⟩ (by decide)
      (by decide)
  have hlogin : AsksFor noticeSite quietEnvironment (bareRequest "HEAD" "/login") .login :=
    asksFor_bareRequest (by decide) (by decide) ⟨by decide, by decide, by decide⟩ (by decide)
      (by decide)
  have hbefore : ∀ q ∈ [bareRequest "GET" "/profile"],
      WellFormed (webserver noticeSite) quietEnvironment q ∧ q.close = false :=
    List.forall_mem_singleton.mpr ⟨hprofile.form, by decide⟩
  have hordinary : Ordinary quietEnvironment (bareRequest "GET" "/profile") :=
    ⟨by decide, by decide, by decide⟩
  rcases @responses_pages noticeSite quietEnvironment presentable_noticeSite
    [(bareRequest "GET" "/profile", .profile)] (List.forall_mem_singleton.mpr ⟨rfl, hprofile⟩) 5
    startState with
    ⟨given, left, s', hgiven, -, hcourteous, -⟩
  rcases receiveResponses_answers (List.forall_mem_singleton.mpr hordinary) hgiven hcourteous with
    ⟨written, hanswers, -⟩
  exact head_ends hlogin rfl hbefore (by decide) hanswers [] false

end Pages

end HelpCovid.Site
