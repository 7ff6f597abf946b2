import HelpCovid.Http.Server
import HelpCovid.Lib.Machine

/-!
# Requests on one connection

A client may send its requests one after the other without waiting. The server
takes each of them for what the client meant: `processSocket_pipeline` says that
the handlers are given exactly the requests that were sent, in order, each with its
own headers, parameters and content, up to the fifth one or to the first that asks
for the connection to be closed; what comes after that is not looked at.

What a request of a method without content is followed by is the next request, also
when its headers announce content.
-/

namespace HelpCovid.Http

open CText Web Machine

/-! ## What a client sends -/

/-- A request of a client: the content, and how it is framed. -/
structure ClientRequest where
  method : Text
  target : Text
  version : Text
  fields : Headers
  content : Text
  framing : Text

namespace ClientRequest

/-- The bytes of a request. -/
def text (r : ClientRequest) : Text :=
  requestLine r.method r.target r.version ++ crlf ++ block (r.fields.map fieldLine) ++ r.framing

/-- The request without its content. -/
def head (env : Environment) (r : ClientRequest) (ranges : List Range) : Request where
  method := r.method
  target := r.target
  path := decodeUrl (r.target.takeWhile (· != '?')) false
  version := r.version
  headers := env.addRemote r.fields
  params := parseQueryText (queryOf r.target) ∅
  files := ∅
  body := []
  ranges := ranges

/-- The request that is meant for the handlers. The parameters of a form come after
those of the target. -/
def request (env : Environment) (r : ClientRequest) (ranges : List Range) : Request :=
  let req := r.head env ranges
  if expectContent r.method then
    let req := { req with body := r.content }
    if "application/x-www-form-urlencoded".toList.isPrefixOf
        (getHeaderValue req.headers "Content-Type".toList) then
      { req with params := parseQueryText req.body req.params }
    else req
  else req

/-- The connection is to be closed after the response. -/
def close (r : ClientRequest) : Bool := wantsClose r.version r.fields

end ClientRequest

section Pipeline

variable {σ : Type} (server : Server σ) (env : Environment)

/-- A request whose line and fields are read as they are written. -/
structure HasHead (r : ClientRequest) : Prop where
  method : r.method ∈ methods
  target : IsTarget r.target
  version : r.version ∈ versions
  fields : ∀ f ∈ r.fields, IsField f
  short : (requestLine r.method r.target r.version ++ crlf).length ≤ 8192

/-- A request that a client may send: where content is expected it is framed, is no
multipart form and not too large. -/
structure WellFormed (r : ClientRequest) : Prop extends HasHead r where
  encoding : expectContent r.method = true →
    getHeaderValue (env.addRemote r.fields) "Content-Encoding".toList ≠ "gzip".toList
  multipart : expectContent r.method = true → isMultipartFormData (env.addRemote r.fields) = false
  framed : expectContent r.method = true →
    Framed server.payloadMaxLength (env.addRemote r.fields) r.content r.framing
  empty : expectContent r.method = false → r.framing = []

/-! ## What it is answered -/

/-- What a request that was read to its end is routed to: a file or a handler. -/
def Server.route (req : Request) (s : σ) : Except Stop (Bool × Response × σ) :=
  let file := if req.method = "GET".toList ∨ req.method = "HEAD".toList then
    handleFileRequest env.files server.baseDirs req.path freshResponse else none
  match file with
  | some answered => answered.map fun res => (true, res, s)
  | none => server.dispatch req freshResponse s

/-- The response to a request that was read to its end. -/
def Server.answer (boundary : Text) (lastConnection : Bool) (req : Request) (s : σ) :
    Except Stop (Text × σ) := do
  let (ok, res, s) ← server.route env req s
  server.writeResponse boundary lastConnection req (res.close ok req.ranges) s

/-- What a client's request is answered. -/
def Server.answerClient (boundary : Text) (lastConnection : Bool) (r : ClientRequest) (s : σ) :
    Except Stop (Text × σ) := do
  let ranges ← readRangeField (env.addRemote r.fields)
  let (written, s) ← server.answer env boundary lastConnection (r.request env ranges) s
  return (continueLine (env.addRemote r.fields) ++ written, s)

/-- The answers to the first requests, as many as there may be, and the requests that
are left. -/
def Server.answers : (count : Nat) → List ClientRequest → σ →
    Except Stop (Text × List ClientRequest × σ)
  | 0, rs, s => return ([], rs, s)
  | _ + 1, [], s => return ([], [], s)
  | count + 1, r :: rs, s => do
      let (written, s) ← server.answerClient env (env.boundary count) (count == 0) r s
      if r.close then return (written, rs, s)
      let (more, left, s) ← answers count rs s
      return (written ++ more, left, s)

/-! ## One request -/

variable {server env}

/-- The address of the peer hides no header. -/
theorem findHeader_addRemote {key : Text} (headers : Headers)
    (haddr : "REMOTE_ADDR".toList.map Char.toLower ≠ key.map Char.toLower)
    (hport : "REMOTE_PORT".toList.map Char.toLower ≠ key.map Char.toLower) :
    findHeader key (env.addRemote headers) = findHeader key headers := by
  have hset : ∀ {k : Text} (v : Text) (hs : Headers), k.map Char.toLower ≠ key.map Char.toLower →
      findHeader key (Web.setHeader k v hs) = findHeader key hs := by
    intro k v hs hne
    rw [Web.setHeader]
    split
    · rw [findHeader, List.find?_append]
      simp [findHeader, hne]
    · rfl
  rw [Environment.addRemote, hset _ _ hport, hset _ _ haddr]

/-- The content of a client's request is read to its end. -/
theorem readContent_request {r : ClientRequest} (h : WellFormed server env r)
    (hexpect : expectContent r.method = true) (hsize : server.payloadMaxLength < 2 ^ 64)
    (ranges : List Range) (res : Response) (rest : Text) (failing : Bool) :
    server.readContent env (r.head env ranges) res ⟨r.framing ++ rest, failing⟩ =
      .ok ⟨true, r.request env ranges, res, ⟨rest, failing⟩⟩ := by
  have hread := readContent_append env.recvSize hsize (h.encoding hexpect) (h.framed hexpect) rest
    failing
  rw [Server.readContent, ClientRequest.head, h.multipart hexpect, if_neg Bool.false_ne_true,
    readBody, hread]
  simp only [Bool.not_true, Bool.false_eq_true, if_false, ClientRequest.request,
    ClientRequest.head, hexpect, if_true]
  by_cases hform : "application/x-www-form-urlencoded".toList.isPrefixOf
      (getHeaderValue (env.addRemote r.fields) "Content-Type".toList) = true
  · simp only [hform, if_true]
  · simp only [hform, Bool.false_eq_true, if_false]

/-- The content changes neither the method nor the path nor the ranges. -/
theorem request_fields (env : Environment) (r : ClientRequest) (ranges : List Range) :
    (r.request env ranges).method = r.method ∧
      (r.request env ranges).path = (r.head env ranges).path ∧
      (r.request env ranges).ranges = ranges := by
  rw [ClientRequest.request]
  split
  · simp only
    split <;> exact ⟨rfl, rfl, rfl⟩
  · exact ⟨rfl, rfl, rfl⟩

theorem expectContent_ne {method : Text} (h : expectContent method = true) :
    ¬ (method = "GET".toList ∨ method = "HEAD".toList) := by
  rintro (rfl | rfl) <;> exact absurd h (by decide)

/-- A client's request is routed as it is meant, and nothing is read after it. -/
theorem routing_request {r : ClientRequest} (h : WellFormed server env r)
    (hsize : server.payloadMaxLength < 2 ^ 64) (ranges : List Range) (rest : Text)
    (failing : Bool) (s : σ) :
    server.routing env (r.head env ranges) freshResponse ⟨r.framing ++ rest, failing⟩ s =
      (server.route env (r.request env ranges) s).map fun (ok, res, s) =>
        ⟨ok, r.request env ranges, res, ⟨rest, failing⟩, s⟩ := by
  rcases request_fields env r ranges with ⟨hmethod, hpath, -⟩
  rw [Server.routing, Server.route, hmethod, hpath]
  have hhead : (r.head env ranges).method = r.method := rfl
  simp only [hhead]
  cases hexpect : expectContent r.method with
  | true =>
      simp only [if_neg (expectContent_ne hexpect), if_true,
        readContent_request h hexpect hsize, ok_bind, Bool.not_true, Bool.false_eq_true, if_false]
      rcases server.dispatch (r.request env ranges) freshResponse s with stop | ⟨ok, res, s⟩ <;> rfl
  | false =>
      have hrequest : r.request env ranges = r.head env ranges := by
        rw [ClientRequest.request, hexpect]
        rfl
      rw [hrequest, h.empty hexpect, List.nil_append]
      generalize (if r.method = "GET".toList ∨ r.method = "HEAD".toList then
        handleFileRequest env.files server.baseDirs (r.head env ranges).path freshResponse
        else none) = file
      cases file with
      | some answered => cases answered <;> rfl
      | none =>
          simp only [Bool.false_eq_true, if_false]
          rcases server.dispatch (r.head env ranges) freshResponse s with stop | ⟨ok, res, s⟩ <;> rfl

theorem getline_text {r : ClientRequest} (h : HasHead r) (rest : Text) (failing : Bool) :
    Stream.getline ⟨r.text ++ rest, failing⟩ =
      some (requestLine r.method r.target r.version ++ crlf,
        ⟨block (r.fields.map fieldLine) ++ (r.framing ++ rest), failing⟩) := by
  have hmethod : '\n' ∉ r.method := fun hmem => (mem_methods_plain h.method _ hmem).2.2 rfl
  have hversion : '\n' ∉ r.version := fun hmem =>
    ((mem_versions_plain h.version).2 _ hmem).2 rfl
  have hline : '\n' ∉ requestLine r.method r.target r.version := by
    simp [requestLine, hmethod, hversion, h.target.plain.2]
  rw [ClientRequest.text, List.append_assoc, List.append_assoc]
  exact getline_crlf hline _ failing

/-- The line and the fields of a request are read, and its ranges. -/
theorem processRequest_head {r : ClientRequest} (h : HasHead r) (boundary : Text)
    (lastConnection : Bool) (rest : Text) (failing : Bool) (s : σ) :
    server.processRequest env boundary lastConnection ⟨r.text ++ rest, failing⟩ s = (do
      let ranges ← readRangeField (env.addRemote r.fields)
      let routed ← server.routing env (r.head env ranges) freshResponse ⟨r.framing ++ rest, failing⟩ s
      let (written, s) ← server.writeResponse boundary lastConnection routed.req
        (routed.res.close routed.ok ranges) routed.state
      return ⟨true, r.close, routed.strm, continueLine (env.addRemote r.fields) ++ written, s⟩) := by
  rw [Server.processRequest, getline_text h rest failing]
  simp only [if_neg (Nat.not_lt.mpr h.short),
    parseRequestLine_requestLine h.method h.target h.version, readHeaders_fields h.fields,
    List.nil_append, if_true]
  rfl

/-- A client's request is processed as it is meant, and what comes after it is left. -/
theorem processRequest_text {r : ClientRequest} (h : WellFormed server env r)
    (hsize : server.payloadMaxLength < 2 ^ 64) (boundary : Text) (lastConnection : Bool)
    (rest : Text) (failing : Bool) (s : σ) :
    server.processRequest env boundary lastConnection ⟨r.text ++ rest, failing⟩ s =
      (server.answerClient env boundary lastConnection r s).map fun (written, s) =>
        ⟨true, r.close, ⟨rest, failing⟩, written, s⟩ := by
  rw [processRequest_head h.toHasHead, Server.answerClient]
  cases hranges : readRangeField (env.addRemote r.fields) with
  | error stop => rfl
  | ok ranges =>
      have hroute := routing_request h hsize ranges rest failing s
      simp only [ok_bind, hroute, Server.answer, (request_fields env r ranges).2.2]
      rcases server.route env (r.request env ranges) s with stop | ⟨ok, res, s⟩
      · rfl
      · simp only [Except.map, ok_bind]
        rcases server.writeResponse boundary lastConnection (r.request env ranges)
          (res.close ok ranges) s with stop | ⟨written, s⟩ <;> rfl

/-! ## A whole connection -/

theorem text_ne_nil (r : ClientRequest) : r.text ≠ [] := by
  simp [ClientRequest.text, requestLine, crlf]

/-- The requests of a client are answered in order and as they are meant, as many as
there may be, and up to the first that closes the connection; what comes after that
is not read. -/
theorem processSocket_pipeline {rs : List ClientRequest} (h : ∀ r ∈ rs, WellFormed server env r)
    (hsize : server.payloadMaxLength < 2 ^ 64) (count : Nat) (failing : Bool) (s : σ) :
    server.processSocket env count ⟨rs.flatMap ClientRequest.text, failing⟩ s =
      (server.answers env count rs s).map fun (written, left, s) =>
        (written, ⟨left.flatMap ClientRequest.text, failing⟩, s) := by
  induction count generalizing rs s with
  | zero =>
      rw [Server.processSocket_zero, Server.answers]
      rfl
  | succ count ih =>
      cases rs with
      | nil => rfl
      | cons r rs =>
          rw [List.forall_mem_cons] at h
          have hne : ¬ (r.text ++ rs.flatMap ClientRequest.text).isEmpty = true := by
            simp [text_ne_nil r]
          rw [Server.processSocket_succ, Server.answers, List.flatMap_cons]
          simp only [if_neg hne, processRequest_text h.1 hsize]
          rcases server.answerClient env (env.boundary count) (count == 0) r s with
            stop | ⟨written, s⟩
          · rfl
          · simp only [Except.map, ok_bind, Bool.not_true, Bool.false_or]
            cases hclose : r.close with
            | true => rfl
            | false =>
                simp only [Bool.false_eq_true, if_false, ih h.2]
                rcases server.answers env count rs s with stop | ⟨more, left, s⟩ <;> rfl

/-- A request that stops the server does so once those before it on the connection are
answered. -/
theorem processSocket_stops {before : List ClientRequest}
    (hbefore : ∀ q ∈ before, WellFormed server env q ∧ q.close = false)
    (hsize : server.payloadMaxLength < 2 ^ 64) {input : Text} (hne : input ≠ []) {failing : Bool}
    {stop : Stop} (hstop : ∀ boundary lastConnection s,
      server.processRequest env boundary lastConnection ⟨input, failing⟩ s = .error stop)
    {count : Nat} (hcount : before.length < count) {s : σ}
    {answered : Text × List ClientRequest × σ}
    (hanswered : server.answers env count before s = .ok answered) :
    server.processSocket env count ⟨before.flatMap ClientRequest.text ++ input, failing⟩ s =
      .error stop := by
  induction before generalizing count s answered with
  | nil =>
      rcases Nat.exists_eq_succ_of_ne_zero (Nat.ne_of_gt hcount) with ⟨count, rfl⟩
      rw [List.flatMap_nil, List.nil_append, Server.processSocket_succ]
      simp only [List.isEmpty_iff, if_neg hne, hstop]
      rfl
  | cons q before ih =>
      rcases Nat.exists_eq_succ_of_ne_zero (Nat.ne_of_gt (Nat.zero_lt_of_lt hcount)) with
        ⟨count, rfl⟩
      rw [List.forall_mem_cons] at hbefore
      rcases ok_of_bind hanswered with ⟨⟨written, s'⟩, hfirst, hrest⟩
      simp only [hbefore.1.2, Bool.false_eq_true, if_false] at hrest
      rcases ok_of_bind hrest with ⟨more, hmore, -⟩
      have hinput : ¬ (q.text ++ (before.flatMap ClientRequest.text ++ input)).isEmpty = true := by
        simp [text_ne_nil q]
      rw [List.flatMap_cons, List.append_assoc, Server.processSocket_succ]
      simp only [if_neg hinput, processRequest_text hbefore.1.1 hsize, hfirst, Except.map, ok_bind,
        hbefore.1.2, Bool.not_true, Bool.or_false, Bool.false_eq_true, if_false,
        ih hbefore.2 (Nat.lt_of_succ_lt_succ hcount) hmore]
      rfl

end Pipeline

/-! ## A small server -/

/-- A server of one page, which counts its visitors. -/
def pageServer : Server Nat where
  baseDirs := []
  getHandlers := [((· == "/".toList), fun _ res n =>
    .ok (.returned (res.setContent "<html/>".toList "text/html".toList), n + 1))]
  postHandlers := []
  putHandlers := []
  patchHandlers := []
  deleteHandlers := []
  optionsHandlers := []
  errorHandler := none
  payloadMaxLength := 1024

def quietEnvironment : Environment :=
  ⟨fun _ => none, fun n => n, "127.0.0.1".toList, 40000, fun _ => []⟩

end HelpCovid.Http
