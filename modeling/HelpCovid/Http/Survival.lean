import HelpCovid.Http.Connection

/-!
# What ends the process

The library itself stops on four occasions only: on a `Range` field, on a multipart
form, on a file that cannot be opened and on a line that its stack is too small for.
`processSocketWithin_calm` says so for every text that a client may send: where there is
none of these, and the handlers come back, the whole connection is served. The invariant
is that what is left to be read is an end of what was sent.
-/

namespace HelpCovid.Http

open CText Web Machine

/-! ## Reading goes on -/

theorem suffix_of_getline {strm strm' : Stream} {line : Text}
    (h : strm.getline = some (line, strm')) : strm'.input <:+ strm.input :=
  ⟨line, (Stream.getline_spec h).1.symm⟩

theorem suffix_of_recv {recvSize : Nat → Nat} {strm strm' : Stream} {n : Nat} {buf : Text}
    (h : strm.recv recvSize n = some (buf, strm')) : strm'.input <:+ strm.input := by
  unfold Stream.recv at h
  split at h
  · cases h
  · cases h
    exact List.drop_suffix _ _

theorem readHeadersFrom_suffix (fuel : Nat) (strm : Stream) (headers : Headers) :
    (readHeadersFrom fuel strm headers).2.2.input <:+ strm.input := by
  induction fuel generalizing strm headers with
  | zero => exact List.suffix_rfl
  | succ fuel ih =>
      rw [readHeadersFrom]
      cases hline : strm.getline with
      | none => exact List.nil_suffix
      | some found =>
          rcases found with ⟨line, strm'⟩
          have hsuffix := suffix_of_getline hline
          simp only
          split
          · split
            · exact hsuffix
            · exact (ih _ _).trans hsuffix
          · exact (ih _ _).trans hsuffix

theorem readHeaders_suffix (strm : Stream) (headers : Headers) :
    (readHeaders strm headers).2.2.input <:+ strm.input :=
  readHeadersFrom_suffix _ strm headers

/-! ## The lines that are matched -/

theorem notMem_dropLast_takeLine (s : Text) : '\n' ∉ (Stream.takeLine s).1.dropLast := by
  induction s with
  | nil => exact List.not_mem_nil
  | cons c s ih =>
      rw [Stream.takeLine]
      split
      · exact List.not_mem_nil
      · next hc =>
          rcases hline : (Stream.takeLine s).1 with _ | ⟨d, line⟩
          · simp [hline]
          · rw [hline] at ih
            simp only [hline, List.dropLast_cons_cons, List.mem_cons, not_or]
            exact ⟨Ne.symm hc, ih⟩

/-- A line that is read has a newline at its end only. -/
theorem notMem_dropLast_of_getline {strm strm' : Stream} {line : Text}
    (h : strm.getline = some (line, strm')) : '\n' ∉ line.dropLast := by
  have hline := notMem_dropLast_takeLine strm.input
  unfold Stream.getline at h
  rcases htake : Stream.takeLine strm.input with ⟨l, rest⟩
  rw [htake] at hline
  simp only [htake] at h
  split at h
  · cases h
    exact hline
  · split at h
    · cases h
    · cases h
      exact hline

/-- A part of a line of a text. -/
def PartOfLine (input t : Text) : Prop := t <:+: input ∧ '\n' ∉ t.dropLast

theorem PartOfLine.of_suffix {input rest t : Text} (h : PartOfLine rest t)
    (hrest : rest <:+ input) : PartOfLine input t :=
  ⟨h.1.trans hrest.isInfix, h.2⟩

/-- The beginning of a line is a part of it. -/
theorem partOfLine_of_prefix {strm strm' : Stream} {line t : Text}
    (h : strm.getline = some (line, strm')) (ht : t <+: line) : PartOfLine strm.input t := by
  have hline : line <+: strm.input := ⟨strm'.input, (Stream.getline_spec h).1.symm⟩
  refine ⟨(ht.trans hline).isInfix, fun hmem => notMem_dropLast_of_getline h ?_⟩
  rcases ht with ⟨u, rfl⟩
  cases u with
  | nil => simpa using hmem
  | cons c u =>
      rw [List.dropLast_append_of_ne_nil (List.cons_ne_nil c u)]
      exact List.mem_append_left _ (List.mem_of_mem_dropLast hmem)

theorem partOfLine_of_headerTextsFrom {fuel : Nat} {strm : Stream} {t : Text}
    (h : t ∈ headerTextsFrom fuel strm) : PartOfLine strm.input t := by
  induction fuel generalizing strm with
  | zero => cases h
  | succ fuel ih =>
      rw [headerTextsFrom] at h
      cases hline : strm.getline with
      | none =>
          rw [hline] at h
          cases h
      | some found =>
          rcases found with ⟨line, strm'⟩
          have hrest := fun hmem => (ih hmem).of_suffix (suffix_of_getline hline)
          simp only [hline] at h
          split at h
          · split at h
            · cases h
            · rcases List.mem_cons.mp h with rfl | h
              · refine partOfLine_of_prefix hline ?_
                exact (List.rdropWhile_prefix _ _).trans (List.take_prefix _ _)
              · exact hrest h
          · exact hrest h

/-- What is matched of a request is part of a line. -/
theorem partOfLine_of_matchedTexts {strm : Stream} {t : Text} (h : t ∈ matchedTexts strm) :
    PartOfLine strm.input t := by
  rw [matchedTexts] at h
  cases hline : strm.getline with
  | none =>
      rw [hline] at h
      cases h
  | some found =>
      rcases found with ⟨line, strm'⟩
      have hheaders : ∀ fuel, t ∈ headerTextsFrom fuel strm' → PartOfLine strm.input t :=
        fun fuel hmem => (partOfLine_of_headerTextsFrom hmem).of_suffix (suffix_of_getline hline)
      simp only [hline] at h
      split at h
      · exact hheaders _ h
      · rcases List.mem_cons.mp h with rfl | h
        · exact partOfLine_of_prefix hline (List.takeWhile_prefix _)
        · split at h
          · exact hheaders _ h
          · cases h

section Receiver

variable {recvSize : Nat → Nat} {σ : Type} {out : σ → Text → Option (Bool × σ)}

/-- A reader of content comes back, further on the connection. -/
def ComesBack (strm : Stream) (result : Option (Received σ)) : Prop :=
  ∃ r, result = some r ∧ r.strm.input <:+ strm.input

theorem comesBack_some (strm : Stream) (ok : Bool) (s : σ) {strm' : Stream}
    (h : strm'.input <:+ strm.input) : ComesBack strm (some (⟨ok, s, strm'⟩ : Received σ)) :=
  ⟨_, rfl, h⟩

theorem ComesBack.trans {strm strm' : Stream} {result : Option (Received σ)}
    (h : ComesBack strm' result) (hsuffix : strm'.input <:+ strm.input) :
    ComesBack strm result := by
  rcases h with ⟨r, hr, hr'⟩
  exact ⟨r, hr, hr'.trans hsuffix⟩

-- the receiver always returns
variable (hout : ∀ s buf, ∃ r, out s buf = some r)

include hout

theorem receiveLength_comesBack (fuel left : Nat) (strm : Stream) (s : σ) :
    ComesBack strm (receiveLength recvSize out fuel left strm s) := by
  induction fuel generalizing left strm s with
  | zero => exact comesBack_some strm _ s List.suffix_rfl
  | succ fuel ih =>
      rw [receiveLength]
      split
      · exact comesBack_some strm true s List.suffix_rfl
      · cases hrecv : strm.recv recvSize (min left recvBufsiz) with
        | none => exact comesBack_some strm false s List.suffix_rfl
        | some found =>
            rcases found with ⟨buf, strm'⟩
            rcases hout s buf with ⟨⟨ok, s'⟩, hbuf⟩
            have hsuffix := suffix_of_recv hrecv
            simp only [hbuf, Option.bind_eq_bind, Option.bind_some]
            split
            · exact (ih _ strm' s').trans hsuffix
            · exact comesBack_some strm false s' hsuffix

theorem receiveAll_comesBack (fuel : Nat) (strm : Stream) (s : σ) :
    ComesBack strm (receiveAll recvSize out fuel strm s) := by
  induction fuel generalizing strm s with
  | zero => exact comesBack_some strm _ s List.suffix_rfl
  | succ fuel ih =>
      rw [receiveAll]
      cases hrecv : strm.recv recvSize recvBufsiz with
      | none => exact comesBack_some strm _ s List.suffix_rfl
      | some found =>
          rcases found with ⟨buf, strm'⟩
          rcases hout s buf with ⟨⟨ok, s'⟩, hbuf⟩
          have hsuffix := suffix_of_recv hrecv
          simp only [hbuf, Option.bind_eq_bind, Option.bind_some]
          split
          · exact (ih strm' s').trans hsuffix
          · exact comesBack_some strm false s' hsuffix

theorem readChunks_comesBack (fuel : Nat) (line : Text) (strm : Stream) (s : σ) :
    ComesBack strm (readChunks recvSize out fuel line strm s) := by
  induction fuel generalizing line strm s with
  | zero => exact comesBack_some strm false s List.suffix_rfl
  | succ fuel ih =>
      rw [readChunks]
      cases strtoulHex line with
      | none => exact comesBack_some strm false s List.suffix_rfl
      | some len =>
          simp only
          split
          · exact comesBack_some strm false s List.suffix_rfl
          split
          · cases hline : strm.getline with
            | none => exact comesBack_some strm false s List.nil_suffix
            | some found => exact comesBack_some strm _ s (suffix_of_getline hline)
          · rcases @receiveLength_comesBack recvSize σ out hout len.toNat len.toNat strm s with
              ⟨⟨ok, s', strm'⟩, hchunk, hsuffix⟩
            rw [readContentWithLength, hchunk]
            simp only [Option.bind_eq_bind, Option.bind_some]
            split
            · exact comesBack_some strm ok s' hsuffix
            cases hline : strm'.getline with
            | none => exact comesBack_some strm false s' List.nil_suffix
            | some found =>
                have hnext := (suffix_of_getline hline).trans hsuffix
                simp only
                split
                · exact comesBack_some strm true s' hnext
                cases hsize : found.2.getline with
                | none => exact comesBack_some strm false s' List.nil_suffix
                | some next =>
                    exact (ih _ _ s').trans ((suffix_of_getline hsize).trans hnext)

/-- The content of a request is read to some end. -/
theorem readContent_comesBack (payloadMaxLength : Nat) (headers : Headers) (strm : Stream)
    (s : σ) :
    ∃ received status, readContent recvSize out payloadMaxLength headers strm s =
      some (received, status) ∧ received.strm.input <:+ strm.input := by
  have hbad : ∀ {result : Option (Received σ)}, ComesBack strm result →
      ∃ received status, result.map badContent = some (received, status) ∧
        received.strm.input <:+ strm.input := by
    rintro result ⟨r, rfl, hr⟩
    exact ⟨r, _, rfl, hr⟩
  rw [readContent]
  split
  · exact ⟨_, _, rfl, List.suffix_rfl⟩
  split
  · refine hbad ?_
    rw [readContentChunked]
    cases hline : strm.getline with
    | none => exact comesBack_some strm false s List.nil_suffix
    | some found =>
        exact (readChunks_comesBack hout _ _ _ s).trans (suffix_of_getline hline)
  · cases findHeader "Content-Length".toList headers with
    | none => exact hbad (receiveAll_comesBack hout _ strm s)
    | some value =>
        simp only
        split
        · exact ⟨_, _, rfl, List.drop_suffix _ _⟩
        · exact hbad (receiveLength_comesBack hout _ _ strm s)

end Receiver

/-! ## Harmless requests -/

section Calm

variable {σ : Type} (server : Server σ) (env : Environment) (allowed : Text → Text → Prop)

/-- A request that a handler may be given, without a `Range` field and without a
multipart form. -/
structure Harmless (req : Request) : Prop where
  allowed : allowed req.method req.path
  range : hasHeader req.headers "Range".toList = false
  form : expectContent req.method = true → isMultipartFormData req.headers = false

/-- Whatever of a text is read as a request is a harmless one. -/
def HarmlessInput (input : Text) : Prop :=
  ∀ (strm strm' : Stream) (line : Text) (req : Request), strm.input <:+ input →
    strm.getline = some (line, strm') → parseRequestLine line = some req →
    Harmless allowed { req with headers := (readHeaders strm' req.headers).2.1 }

/-- No line of the input, and no part of one, needs more stack than there is. -/
def Shallow (deep : Text → Bool) (input : Text) : Prop := ∀ t, PartOfLine input t → deep t = false

/-- Every regular file can be opened. -/
def Environment.Readable : Prop := ∀ p, env.files p ≠ some .unreadable

/-- The handlers of a server come back, by an exception perhaps, from the requests that
they may be given; the error handler comes back without an exception. -/
structure Calm : Prop where
  handlers : ∀ method hs, server.handlersFor method = some hs → ∀ h ∈ hs, ∀ req res s,
    req.method = method → h.1 req.path = true → allowed method req.path →
    ∃ out, h.2 req res s = .ok out
  error : ∀ handler ∈ server.errorHandler, ∀ req res s,
    ∃ res' s', handler req res s = .ok (.returned res', s')

variable {server env allowed}

theorem HarmlessInput.suffix {input rest : Text} (h : HarmlessInput allowed input)
    (hrest : rest <:+ input) : HarmlessInput allowed rest :=
  fun strm strm' line req hstrm => h strm strm' line req (hstrm.trans hrest)

theorem Shallow.suffix {deep : Text → Bool} {input rest : Text} (h : Shallow deep input)
    (hrest : rest <:+ input) : Shallow deep rest :=
  fun t ht => h t (ht.of_suffix hrest)

/-- A file that can be opened is sent. -/
theorem handleFileRequest_readable (hfiles : env.Readable) {baseDirs : List (Text × Text)}
    {reqPath : Text} {res : Response} {answered : Except Stop Response}
    (h : handleFileRequest env.files baseDirs reqPath res = some answered) :
    ∃ res', answered = .ok res' := by
  rcases List.exists_of_findSome?_eq_some h with ⟨mount, -, hround⟩
  simp only [mountedFile, Option.ite_none_right_eq_some, Option.map_eq_some_iff] at hround
  rcases hround with ⟨-, -, file, hfile, rfl⟩
  cases file with
  | readable content => exact ⟨_, rfl⟩
  | unreadable => exact absurd hfile (hfiles _)

theorem dispatch_calm (h : Calm server allowed) {req : Request}
    (hreq : allowed req.method req.path) (res : Response) (s : σ) :
    ∃ out, server.dispatch req res s = .ok out := by
  rw [Server.dispatch]
  cases hhandlers : server.handlersFor req.method with
  | none => exact ⟨_, rfl⟩
  | some hs =>
      simp only [dispatchRequest]
      cases hfind : hs.find? fun e => e.1 req.path with
      | none => exact ⟨_, rfl⟩
      | some e =>
          have hpath : e.1 req.path = true := by simpa using List.find?_some hfind
          rcases h.handlers _ hs hhandlers e (List.mem_of_find?_eq_some hfind) req res s rfl hpath
            hreq with ⟨⟨out, s'⟩, hout⟩
          simp only [hout, ok_bind]
          cases out with
          | returned res' => exact ⟨_, rfl⟩
          | raised what res' => exact ⟨_, rfl⟩

/-- Reading the content changes nothing by which a request is routed. -/
theorem readBody_calm (payloadMaxLength : Nat) (recvSize : Nat → Nat) (req : Request)
    (res : Response) (strm : Stream) :
    ∃ content, readBody payloadMaxLength recvSize req res strm = .ok content ∧
      content.req.method = req.method ∧ content.req.path = req.path ∧
      content.req.ranges = req.ranges ∧ content.strm.input <:+ strm.input := by
  have htotal : ∀ s buf, ∃ r, appendBody s buf = some r := fun s buf => ⟨_, rfl⟩
  rcases @readContent_comesBack recvSize Text appendBody htotal payloadMaxLength req.headers strm
    req.body with ⟨received, status, hread, hsuffix⟩
  rw [readBody, hread]
  simp only
  split
  · exact ⟨_, rfl, rfl, rfl, rfl, hsuffix⟩
  · split
    · exact ⟨_, rfl, rfl, rfl, rfl, hsuffix⟩
    · exact ⟨_, rfl, rfl, rfl, rfl, hsuffix⟩

theorem routing_calm (h : Calm server allowed) (hfiles : env.Readable) {req : Request}
    (hreq : allowed req.method req.path)
    (hform : expectContent req.method = true → isMultipartFormData req.headers = false)
    (res : Response) (strm : Stream) (s : σ) :
    ∃ routed, server.routing env req res strm s = .ok routed ∧
      routed.req.ranges = req.ranges ∧ routed.strm.input <:+ strm.input := by
  rw [Server.routing]
  have hfile : ∀ answered, (if req.method = "GET".toList ∨ req.method = "HEAD".toList then
      handleFileRequest env.files server.baseDirs req.path res else none) = some answered →
      ∃ res', answered = .ok res' := by
    intro answered hanswered
    rw [Option.ite_none_right_eq_some] at hanswered
    exact handleFileRequest_readable hfiles hanswered.2
  generalize (if req.method = "GET".toList ∨ req.method = "HEAD".toList then
    handleFileRequest env.files server.baseDirs req.path res else none) = file at hfile
  cases file with
  | some answered =>
      rcases hfile answered rfl with ⟨res', rfl⟩
      exact ⟨_, rfl, rfl, List.suffix_rfl⟩
  | none =>
      simp only
      cases hexpect : expectContent req.method with
      | false =>
          rcases dispatch_calm h hreq res s with ⟨out, hout⟩
          simp only [Bool.false_eq_true, if_false, hout, ok_bind]
          exact ⟨_, rfl, rfl, List.suffix_rfl⟩
      | true =>
          rcases readBody_calm server.payloadMaxLength env.recvSize req res strm with
            ⟨content, hread, hmethod, hpath, hranges, hsuffix⟩
          rw [if_pos rfl, Server.readContent, hform hexpect, if_neg Bool.false_ne_true, hread,
            ok_bind]
          split
          · exact ⟨_, rfl, hranges, hsuffix⟩
          · rcases dispatch_calm h (hmethod ▸ hpath ▸ hreq) content.res s with ⟨out, hout⟩
            simp only [hout, ok_bind]
            exact ⟨_, rfl, hranges, hsuffix⟩

theorem writeResponse_calm (h : Calm server allowed) {req : Request} (hranges : req.ranges = [])
    (boundary : Text) (lastConnection : Bool) (res : Response) (s : σ) :
    ∃ out, server.writeResponse boundary lastConnection req res s = .ok out := by
  have herror : ∃ out, server.handleError req res s = .ok out := by
    rw [Server.handleError]
    cases hhandler : server.errorHandler with
    | none => exact ⟨_, rfl⟩
    | some handler =>
        simp only
        split
        · exact ⟨_, rfl⟩
        · rcases h.error handler hhandler req res s with ⟨res', s', hout⟩
          simp only [hout, ok_bind]
          exact ⟨_, rfl⟩
  rcases herror with ⟨⟨res', s'⟩, hout⟩
  rcases @complete_of_no_ranges res' req hranges boundary lastConnection with
    ⟨sent, -, hcomplete⟩
  rw [Server.writeResponse, hout, ok_bind]
  simp only [Http.writeResponse, hcomplete, Option.bind_eq_bind, Option.bind_some,
    Option.pure_def]
  exact ⟨_, rfl⟩

theorem refuse_calm (h : Calm server allowed) {req : Request} (hranges : req.ranges = [])
    (boundary : Text) (lastConnection : Bool) (status : Int) (strm : Stream) (s : σ) :
    ∃ done, server.refuse boundary lastConnection req status strm s = .ok done ∧
      done.strm = strm := by
  rcases writeResponse_calm h hranges boundary lastConnection
    { freshResponse with status := status } s with ⟨out, hout⟩
  rw [Server.refuse]
  simp only [hout, ok_bind]
  exact ⟨_, rfl, rfl⟩

theorem ranges_of_parseRequestLine {line : Text} {req : Request}
    (h : parseRequestLine line = some req) : req.ranges = [] := by
  simp only [parseRequestLine, Option.bind_eq_bind, Option.bind_eq_some_iff] at h
  rcases h with ⟨-, -, ⟨target, version⟩, -, ⟨path, query⟩, -, hreq⟩
  rw [← Option.some.inj hreq]

theorem processHeaders_calm (h : Calm server allowed) (hfiles : env.Readable) {req : Request}
    (hreq : Harmless allowed req) (boundary : Text) (lastConnection : Bool) (strm : Stream) (s : σ) :
    ∃ done, server.processHeaders env boundary lastConnection req strm s = .ok done ∧
      done.strm.input <:+ strm.input := by
  have hfield : readRangeField (env.addRemote req.headers) = .ok [] := by
    rw [readRangeField, hasHeader, findHeader_addRemote _ (by decide) (by decide), ← hasHeader,
      hreq.range]
    rfl
  have hform : expectContent req.method = true →
      isMultipartFormData (env.addRemote req.headers) = false := by
    intro hexpect
    rw [isMultipartFormData, getHeaderValue, findHeader_addRemote _ (by decide) (by decide)]
    exact hreq.form hexpect
  rcases @routing_calm σ server env allowed h hfiles
    { req with headers := env.addRemote req.headers, ranges := [] } hreq.allowed hform
    freshResponse strm s with ⟨routed, hrouted, hranges, hsuffix⟩
  rcases writeResponse_calm h hranges boundary lastConnection (routed.res.close routed.ok [])
    routed.state with ⟨out, hout⟩
  rw [Server.processHeaders]
  simp only [hfield, ok_bind, hrouted, hout]
  exact ⟨_, rfl, hsuffix⟩

/-! ## A calm server -/

/-- One request is answered, and what is left is an end of what there was. -/
theorem processRequest_calm (h : Calm server allowed) (hfiles : env.Readable) {strm : Stream}
    (hinput : HarmlessInput allowed strm.input) (boundary : Text) (lastConnection : Bool) (s : σ) :
    ∃ done, server.processRequest env boundary lastConnection strm s = .ok done ∧
      done.strm.input <:+ strm.input := by
  rw [Server.processRequest]
  cases hline : strm.getline with
  | none => exact ⟨_, rfl, List.nil_suffix⟩
  | some found =>
      rcases found with ⟨line, strm'⟩
      have hsuffix := suffix_of_getline hline
      simp only
      split
      · rcases @refuse_calm σ server allowed h .init rfl boundary lastConnection 414
          (readHeaders strm' []).2.2 s with ⟨done, hdone, hstrm⟩
        exact ⟨done, hdone, hstrm ▸ (readHeaders_suffix strm' []).trans hsuffix⟩
      · cases hreq : parseRequestLine line with
        | none =>
            rcases @refuse_calm σ server allowed h .init rfl boundary lastConnection 400 strm' s with
              ⟨done, hdone, hstrm⟩
            exact ⟨done, hdone, hstrm ▸ hsuffix⟩
        | some req =>
            have hheaders := (readHeaders_suffix strm' req.headers).trans hsuffix
            have hharmless := hinput strm strm' line req List.suffix_rfl hline hreq
            have hranges := ranges_of_parseRequestLine hreq
            simp only
            split
            · rcases processHeaders_calm h hfiles hharmless boundary lastConnection
                (readHeaders strm' req.headers).2.2 s with ⟨done, hdone, hdone'⟩
              exact ⟨done, hdone, hdone'.trans hheaders⟩
            · rcases @refuse_calm σ server allowed h
                { req with headers := (readHeaders strm' req.headers).2.1 } hranges boundary
                lastConnection 400 (readHeaders strm' req.headers).2.2 s with ⟨done, hdone, hstrm⟩
              exact ⟨done, hdone, hstrm ▸ hheaders⟩

/-- A connection is served to its end, as it is on a stack without bounds, where no request
asks for parts or sends a multipart form, no line is too deep, files can be opened and the
handlers come back, whatever else is sent. -/
theorem processSocketWithin_calm (h : Calm server allowed) (hfiles : env.Readable)
    {deep : Text → Bool} {strm : Stream} (hinput : HarmlessInput allowed strm.input)
    (hdeep : Shallow deep strm.input) (count : Nat) (s : σ) :
    ∃ done, server.processSocketWithin env deep count strm s = .ok done ∧
      server.processSocket env count strm s = .ok done := by
  rw [Server.processSocketWithin]
  induction count generalizing strm s with
  | zero => exact ⟨_, rfl, rfl⟩
  | succ count ih =>
      have hmatched : ¬ (matchedTexts strm).any deep = true := by
        rw [List.any_eq_true]
        rintro ⟨t, ht, htrue⟩
        rw [hdeep t (partOfLine_of_matchedTexts ht)] at htrue
        cases htrue
      rw [processSocketWith, Server.processSocket_succ]
      split
      · exact ⟨_, rfl, rfl⟩
      · rcases @processRequest_calm σ server env allowed h hfiles strm hinput (env.boundary count)
          (count == 0) s with ⟨done, hdone, hsuffix⟩
        simp only [Server.processRequestWithin, if_neg hmatched, hdone, ok_bind]
        split
        · exact ⟨_, rfl, rfl⟩
        · rcases ih (hinput.suffix hsuffix) (hdeep.suffix hsuffix) done.state with
            ⟨rest, hrest, hrest'⟩
          simp only [hrest, hrest', ok_bind]
          exact ⟨_, rfl, rfl⟩

/-! ## Input without fields -/

theorem matchField_of_notMem {s : Text} (h : ':' ∉ s) : matchField s = none := by
  have htake : s.takeWhile (· != ':') = s := by
    refine List.takeWhile_eq_self_iff.mpr fun c hc => ?_
    simpa using fun heq : c = ':' => h (heq ▸ hc)
  rw [matchField, htake, List.drop_of_length_le (Nat.le_succ _)]
  simp

theorem readHeadersFrom_of_notMem {strm : Stream} (h : ':' ∉ strm.input) (fuel : Nat) :
    (readHeadersFrom fuel strm []).2.1 = [] := by
  induction fuel generalizing strm with
  | zero => rfl
  | succ fuel ih =>
      rw [readHeadersFrom]
      cases hline : strm.getline with
      | none => rfl
      | some found =>
          rcases found with ⟨line, strm'⟩
          have hsplit := (Stream.getline_spec hline).1
          have hparts : ':' ∉ line ∧ ':' ∉ strm'.input := by
            rwa [hsplit, List.mem_append, not_or] at h
          have hfield : headerOfLine line = none := by
            refine matchField_of_notMem fun hmem => hparts.1 ?_
            exact List.mem_of_mem_take ((List.rdropWhile_prefix _ _).subset hmem)
          simp only
          split
          · split
            · rfl
            · rw [hfield]
              exact ih hparts.2
          · exact ih hparts.2

/-- What has no colon has no fields, and does no harm if its methods do none. -/
theorem harmlessInput_of_notMem {input : Text} (h : ':' ∉ input)
    (hallowed : ∀ method path, (∀ c ∈ method, c ∈ input) → allowed method path) :
    HarmlessInput allowed input := by
  intro strm strm' line req hstrm hline hreq
  have hread := suffix_of_getline hline
  have hinput : ':' ∉ strm'.input := fun hmem => h (hstrm.subset (hread.subset hmem))
  simp only [parseRequestLine, Option.bind_eq_bind, Option.bind_eq_some_iff] at hreq
  rcases hreq with ⟨-, -, ⟨target, version⟩, -, ⟨path, query⟩, -, hreq⟩
  have hmethod : ∀ c ∈ req.method, c ∈ input := by
    intro c hc
    rw [← Option.some.inj hreq] at hc
    have hmem : c ∈ line := (List.takeWhile_prefix _).subset ((List.takeWhile_prefix _).subset hc)
    refine hstrm.subset ?_
    rw [(Stream.getline_spec hline).1]
    exact List.mem_append_left _ hmem
  have hheaders : (readHeaders strm' req.headers).2.1 = [] := by
    rw [← Option.some.inj hreq]
    exact readHeadersFrom_of_notMem hinput _
  simp only [hheaders]
  exact ⟨hallowed _ _ hmethod, by rfl, fun _ => by rfl⟩

end Calm

end HelpCovid.Http
