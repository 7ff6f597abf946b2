import HelpCovid.Http.Survival
import HelpCovid.Site.Pages

/-!
# What a visitor cannot do

A visitor that neither asks for the headers of a page nor for a part of an answer,
sends no multipart form, and no line that a worker's stack is too small for, does no
harm: the connection is served to its end, whatever else is sent over it
(`visitor_harmless`). What that takes from the site is `Sound`, and that its files can be
opened; a template that a stray `?>` makes the expander throw on is no harm either,
except in the error page, which is expanded where nothing catches.
-/

namespace HelpCovid.Site

open CText Http Machine

/-! ## The builtin error page -/

/-- Every text before a markup is free of `?>`; decided, for as many markups as there is
fuel. -/
def gapsClear : Nat → Text → Bool
  | 0, _ => false
  | fuel + 1, cur =>
      match strstr Template.opening cur with
      | none => true
      | some startpi =>
          (strstr Template.closing ((cur.take startpi).drop Template.opening.length)).isNone &&
            match Template.nextMarkup cur with
            | none => true
            | some (_, _, rest) => gapsClear fuel rest

theorem strayFree_of_gapsClear {fuel : Nat} {cur : Text} (h : gapsClear fuel cur = true) :
    Template.StrayFree cur := by
  induction fuel generalizing cur with
  | zero => cases h
  | succ fuel ih =>
      rw [gapsClear] at h
      cases hstart : strstr Template.opening cur with
      | none => exact Template.strayFree_of_none hstart
      | some startpi =>
          simp only [hstart, Bool.and_eq_true, Option.isNone_iff_eq_none] at h
          refine (Template.strayFree_iff hstart).mpr ⟨Template.gapClear_of_none h.1, ?_⟩
          intro p hp
          have hrest := h.2
          simp only [hp] at hrest
          exact ih hrest

/-- A line of a template in which every markup is found. -/
structure IsPlainLine (line : Text) : Prop where
  newline : '\n' ∉ line
  nul : '\x00' ∉ line
  strayFree : Template.StrayFree line

theorem isPlainLine_builtin : ∀ line ∈ builtinErrorLines, IsPlainLine line := by
  have hall : builtinErrorLines.all (fun line =>
    !line.contains '\n' && !line.contains '\x00' && gapsClear 9 line) = true := by decide +kernel
  intro line hline
  have hplain := List.all_eq_true.mp hall line hline
  simp only [Bool.and_eq_true, Bool.not_eq_true', List.contains_eq_mem, decide_eq_false_iff_not]
    at hplain
  exact ⟨hplain.1.1, hplain.1.2, strayFree_of_gapsClear hplain.2⟩

theorem builtin_size : builtinErrorHtml.length ≤ Template.maxTemplateSize := by decide +kernel

/-- The builtin page is expanded, whatever its markups write. -/
theorem expand_builtinErrorHtml (dict : Template.ExpanderDict Template.Reading)
    (env : Nat → Template.Reading) (inpname : Option Text) :
    ∃ text data, Template.expandTemplateString dict env builtinErrorHtml inpname [] =
      .ok (text, data) := by
  have hlines : lines builtinErrorHtml = builtinErrorLines :=
    lines_unlines fun line hline => (isPlainLine_builtin line hline).newline
  have hnul : '\x00' ∉ builtinErrorHtml := by
    intro hmem
    rcases List.mem_flatMap.mp hmem with ⟨line, hline, hchar⟩
    rcases List.mem_append.mp hchar with hchar | hchar
    · exact (isPlainLine_builtin line hline).nul hchar
    · exact absurd hchar (by decide)
  refine ⟨_, _, (Template.expandTemplateString_eq dict env inpname [] builtin_size hnul).1 ?_⟩
  rw [hlines]
  exact fun line hline => (isPlainLine_builtin line hline).strayFree

/-! ## Handlers -/

section Sound

variable (site : Surroundings)

/-- What the handlers need in order to come back. -/
structure Sound : Prop where
  page : ∀ page tdata turn,
    (∃ text, Page.expand site page tdata turn = .ok text ∧ text.length < htmlResponseMaxLen) ∨
      Page.expand site page tdata turn = .error (.scan .lengthError)
  cookie : GivesCookies site
  register : ∀ reqnum,
    (site.writeWebString (registerAnswer site "/register".toList reqnum)).length ≤
      jsonResponseMaxLen
  error : goodhtml site (webrootFile site "/html/error.html") = true → ∀ tdata turn, ∃ text,
    Template.expandPage site.server tdata (site.reading turn) site.sources
      (webrootFile site "/html/error.html") = .ok text

/-- What a visitor may ask for: anything but the headers of a page. -/
def NoPageHead (method path : Text) : Prop :=
  ¬ (method = "HEAD".toList ∧ (path = [] ∨ ∃ page : Page, path = page.path))

variable {site}

theorem viewHandler_calm (h : Sound site) (page : Page) {maxLen : Option Nat}
    (hmax : ∀ len ∈ maxLen, len = htmlResponseMaxLen) (contentType : String) {req : Request}
    (hmethod : req.method = "GET".toList) (res : Response) (s : State) :
    ∃ out, viewHandler (page.view site) maxLen contentType req res s = .ok out := by
  let counted := (incrementedRequestCounter s).2
  rcases h.page page (templateData req (s.requestCounter + 1)) counted.turn with
    ⟨text, htext, hlength⟩ | hraised
  · rcases view_ok h.cookie page hmethod (expandTemplateFile_ok htext) hlength res with
      ⟨res', cookies, hview, -⟩
    exact ⟨_, viewHandler_returned contentType hview fun len hlen => hmax len hlen ▸ hlength.le⟩
  · rcases view_raised h.cookie page hmethod (expandTemplateFile_lengthError hraised) res with
      ⟨res', s', hview⟩
    exact ⟨_, viewHandler_raised maxLen contentType hview⟩

/-- A pattern without a dot stands for itself. -/
theorem eq_of_matchPattern {pattern : String} {path : Text} (hdot : '.' ∉ pattern.toList)
    (h : matchPattern pattern path = true) : path = pattern.toList := by
  rw [matchPattern, Bool.and_eq_true, beq_iff_eq] at h
  rcases h with ⟨hlength, hall⟩
  refine (List.ext_getElem hlength fun i hi hi' => ?_).symm
  have hmem : (pattern.toList[i], path[i]) ∈ pattern.toList.zip path := by
    rw [List.mem_iff_getElem]
    refine ⟨i, ?_, List.getElem_zip⟩
    rw [List.length_zip]
    exact lt_min hi hi'
  have hpair := List.all_eq_true.mp hall _ hmem
  have hne : pattern.toList[i] ≠ '.' := fun heq => hdot (heq ▸ List.getElem_mem hi)
  simpa [hne] using hpair

theorem idleHandler_calm (req : Request) (res : Response) (s : State) :
    ∃ out, idleHandler req res s = .ok out := ⟨_, rfl⟩

theorem statusHandler_calm (status : Nat → BitVec 64 → Text) (contentType : String)
    (req : Request) (res : Response) (s : State) :
    ∃ out, statusHandler status contentType req res s = .ok out := ⟨_, rfl⟩

/-- The handlers of `GET` come back from what a visitor may ask for. -/
theorem getHandlers_calm (h : Sound site) {e : (Text → Bool) × Handler State}
    (he : e ∈ (webserver site).getHandlers) {req : Request}
    (hmethod : req.method = "GET".toList ∨ req.method = "HEAD".toList)
    (hpath : e.1 req.path = true) (hallowed : NoPageHead req.method req.path) (res : Response)
    (s : State) : ∃ out, e.2 req res s = .ok out := by
  have hget : (req.path = [] ∨ ∃ page : Page, req.path = page.path) →
      req.method = "GET".toList :=
    fun hpage => hmethod.resolve_right fun hhead => hallowed ⟨hhead, hpage⟩
  simp only [webserver, List.mem_cons, List.not_mem_nil, or_false] at he
  rcases he with rfl | rfl | rfl | rfl | rfl | rfl | rfl | rfl | rfl | rfl
  · exact statusHandler_calm _ _ req res s
  · exact statusHandler_calm _ _ req res s
  · exact idleHandler_calm req res s
  · have hempty : req.path = [] := eq_of_matchPattern (by decide) hpath
    exact viewHandler_calm h .home (by simp) _ (hget (Or.inl hempty)) res s
  · have hhome : req.path = Page.home.path := eq_of_matchPattern (by decide) hpath
    exact viewHandler_calm h .home (by simp) _ (hget (Or.inr ⟨_, hhome⟩)) res s
  · have hroot : req.path = [] ∨ req.path = ['/'] := by
      simpa [matchRoot] using hpath
    refine viewHandler_calm h .home (by simp) _ (hget ?_) res s
    exact hroot.imp_right fun hslash => ⟨.home, hslash⟩
  · have hlogin : req.path = Page.login.path := eq_of_matchPattern (by decide) hpath
    exact viewHandler_calm h .login (by simp) _ (hget (Or.inr ⟨_, hlogin⟩)) res s
  · have hregister : req.path = Page.register.path := eq_of_matchPattern (by decide) hpath
    exact viewHandler_calm h .register (by simp) _ (hget (Or.inr ⟨_, hregister⟩)) res s
  · have hprofile : req.path = Page.profile.path := eq_of_matchPattern (by decide) hpath
    exact viewHandler_calm h .profile (by simp) _ (hget (Or.inr ⟨_, hprofile⟩)) res s
  · exact idleHandler_calm req res s

/-- No login gets an answer: the statement it needs is not prepared. -/
theorem loginViewPost_raises {req : Request} (hpost : req.method = "POST".toList) (res : Response)
    (reqnum : BitVec 64) (s : State) :
    ∃ what, loginViewPost site req res reqnum s = .ok (.raised what, res, s) := by
  unfold loginViewPost
  rw [if_neg (not_not.mpr hpost)]
  simp only [Database.userModelAuthenticate_eq]
  exact ⟨_, rfl⟩

theorem registerViewPost_returns {req : Request} (hpost : req.method = "POST".toList)
    (res : Response) (reqnum : BitVec 64) (s : State) :
    registerViewPost site req res reqnum s =
      .ok (.returned (site.writeWebString (registerAnswer site req.path reqnum)), res, s) := by
  unfold registerViewPost
  rw [if_neg (not_not.mpr hpost)]
  rfl

/-- The handlers of `POST` come back; the exception of a login is left to the server. -/
theorem postHandlers_calm (h : Sound site) {e : (Text → Bool) × Handler State}
    (he : e ∈ (webserver site).postHandlers) {req : Request} (hpost : req.method = "POST".toList)
    (hpath : e.1 req.path = true) (res : Response) (s : State) :
    ∃ out, e.2 req res s = .ok out := by
  simp only [webserver, List.mem_cons, List.not_mem_nil, or_false] at he
  rcases he with rfl | rfl | rfl
  · exact idleHandler_calm req res s
  · rcases @loginViewPost_raises site req hpost res (s.requestCounter + 1)
      (incrementedRequestCounter s).2 with ⟨what, hview⟩
    exact ⟨_, viewHandler_raised _ _ hview⟩
  · have hregister : req.path = "/register".toList := eq_of_matchPattern (by decide) hpath
    have hview := @registerViewPost_returns site req hpost res (s.requestCounter + 1)
      (incrementedRequestCounter s).2
    refine ⟨_, viewHandler_returned "application/json" hview fun len hlen => ?_⟩
    rw [hregister, ← Option.mem_some_iff.mp hlen]
    exact h.register (s.requestCounter + 1)

/-- The error handler shows a page. -/
theorem webErrorHandler_calm (h : Sound site) (req : Request) (res : Response) (s : State) :
    ∃ res' s', webErrorHandler site req res s = .ok (.returned res', s') := by
  have hpage : ∃ text, errorPage site req s.requestCounter s = .ok (.returned text) := by
    unfold errorPage
    by_cases hgood : goodhtml site (webrootFile site "/html/error.html") = true
    · rcases h.error hgood (templateData req s.requestCounter) s.turn with ⟨text, htext⟩
      exact ⟨text, by rw [if_pos hgood, expandTemplateFile_ok htext]⟩
    · rcases expand_builtinErrorHtml (totalDict site (templateData req s.requestCounter))
        (site.reading s.turn) (some "*builtin-error*".toList) with ⟨text, data, htext⟩
      exact ⟨text, by rw [if_neg hgood, htext]⟩
  rcases hpage with ⟨text, htext⟩
  refine ⟨res.setContent (cstr text) "text/html".toList, s.nextTurn, ?_⟩
  unfold webErrorHandler
  rw [htext, ok_bind]
  rfl

theorem webserver_calm (h : Sound site) : Calm (webserver site) NoPageHead := by
  refine ⟨fun method hs hhandlers e he req res s hmethod hpath hallowed => ?_,
    fun handler hhandler req res s => ?_⟩
  · rw [← hmethod] at hhandlers hallowed
    rcases handlersFor_cases hhandlers with ⟨hget, rfl⟩ | ⟨hpost, rfl⟩ | rfl | rfl | rfl | rfl
    · exact getHandlers_calm h he hget hpath hallowed res s
    · exact postHandlers_calm h he hpost hpath res s
    all_goals cases he
  · cases hhandler
    exact webErrorHandler_calm h req res s

/-- A visitor that neither asks for the headers of a page nor for a part of an answer, and
sends no multipart form and no line that is too deep, is served until the connection is
closed, in the same way as on a stack without bounds. -/
theorem visitor_harmless (h : Sound site) {env : Environment} (hfiles : env.Readable)
    {deep : Text → Bool} {input : Text} (hinput : HarmlessInput NoPageHead input)
    (hdeep : Shallow deep input) (failing : Bool) (count : Nat) (s : State) :
    ∃ done, (webserver site).processSocketWithin env deep count ⟨input, failing⟩ s = .ok done ∧
      (webserver site).processSocket env count ⟨input, failing⟩ s = .ok done :=
  @processSocketWithin_calm _ (webserver site) env _ (webserver_calm h) hfiles deep
    ⟨input, failing⟩ hinput hdeep count s

theorem sound_noticeSite : Sound noticeSite := by
  have hmissing : goodhtml noticeSite (webrootFile noticeSite "/html/error.html") = false := by decide
  refine ⟨fun page tdata turn => Or.inl ⟨_, expand_noticeSite page tdata turn, by decide⟩,
    givesCookies_noticeSite, fun reqnum => ?_, fun hgood => ?_⟩
  · show "{}".toList.length ≤ jsonResponseMaxLen
    decide
  · rw [hmissing] at hgood
    cases hgood

/-- A visitor that asks for the home page, registers without fields, and goes on with what
is no request; the stack is enough for a thousand characters. -/
theorem visitor_harmless_no_fields :
    ∃ done, (webserver noticeSite).processSocketWithin quietEnvironment (fun t => 1000 < t.length) 5
        ⟨"GET / HTTP/1.1\r\n\r\nPOST /register HTTP/1.1\r\n\r\nfirst=you".toList, true⟩
        startState = .ok done ∧
      (webserver noticeSite).processSocket quietEnvironment 5
        ⟨"GET / HTTP/1.1\r\n\r\nPOST /register HTTP/1.1\r\n\r\nfirst=you".toList, true⟩
        startState = .ok done := by
  have hcolon : ':' ∉ "GET / HTTP/1.1\r\n\r\nPOST /register HTTP/1.1\r\n\r\nfirst=you".toList ∧
      'A' ∉ "GET / HTTP/1.1\r\n\r\nPOST /register HTTP/1.1\r\n\r\nfirst=you".toList := by decide
  refine visitor_harmless sound_noticeSite (fun p => by simp [quietEnvironment])
    (harmlessInput_of_notMem hcolon.1 fun method path hmethod => ?_) (fun t ht => ?_) true 5
    startState
  · rintro ⟨rfl, -⟩
    exact hcolon.2 (hmethod 'A' (by decide))
  · have hlength := ht.1.length_le
    have hshort : "GET / HTTP/1.1\r\n\r\nPOST /register HTTP/1.1\r\n\r\nfirst=you".toList.length ≤
        1000 := by decide
    exact decide_eq_false (by omega)

end Sound

end HelpCovid.Site
