import HelpCovid.Http.StaticFile
import HelpCovid.Http.Multipart
import HelpCovid.Http.Response

/-!
# The server

`process_request` reads one request from a connection, finds what answers it (a
file, or the first handler whose pattern matches the path) and writes the response;
`process_socket` does so for at most five requests. Handlers are given; they may
change a state that all requests share, and they may throw. What a handler throws is
turned into a response, but an exception on any other way ends the process
(`Stop.terminate`), and so does a handler that aborts; a form that its parser never
comes back from keeps the worker for ever (`Stop.hang`). A worker has all the stack it
needs here, except in `processSocketWithin`.
-/

namespace HelpCovid.Http

open CText Web

/-- What a handler comes back with. -/
inductive Handled where
  | returned (res : Response)
  /-- it threw an exception with a text -/
  | raised (what : Text) (res : Response)
deriving Repr

/-- `Server::Handler`, with the state it works on. -/
abbrev Handler (σ : Type) := Request → Response → σ → Except Stop (Handled × σ)

/-- `Server::Handlers`: patterns for the whole path. -/
abbrev Handlers (σ : Type) := List ((Text → Bool) × Handler σ)

/-- `httplib::Server`, with what a running server uses of it. -/
structure Server (σ : Type) where
  baseDirs : List (Text × Text)
  getHandlers : Handlers σ
  postHandlers : Handlers σ
  putHandlers : Handlers σ
  patchHandlers : Handlers σ
  deleteHandlers : Handlers σ
  optionsHandlers : Handlers σ
  errorHandler : Option (Handler σ)
  payloadMaxLength : Nat

/-- What a connection finds: the regular files, how much is read at once, the address of
the peer, and the random boundary for each request. -/
structure Environment where
  files : Text → Option RegularFile
  recvSize : Nat → Nat
  remoteAddr : Text
  remotePort : Nat
  boundary : Nat → Text

/-! ## Reading the content -/

/-- `Request::is_multipart_form_data` -/
def isMultipartFormData (headers : Headers) : Bool :=
  "multipart/form-data".toList.isPrefixOf (getHeaderValue headers "Content-Type".toList)

/-- `detail::parse_multipart_boundary` -/
def parseMultipartBoundary (contentType : Text) : Option Text :=
  (strstr "boundary=".toList contentType).map fun pos => contentType.drop (pos + 9)

/-- `detail::expect_content` -/
def expectContent (method : Text) : Bool :=
  (["POST", "PUT", "PATCH", "PRI", "DELETE"].map String.toList).contains method

/-- What reading the content of a request comes to. -/
structure ContentRead where
  ok : Bool
  req : Request
  res : Response
  strm : Stream
deriving Repr

/-- The status that a failed reader sets. -/
def Response.setStatus (res : Response) (status : Option Int) : Response :=
  { res with status := status.getD res.status }

/-- `Server::read_content` of a multipart form. -/
def readMultipart (payloadMaxLength : Nat) (recvSize : Nat → Nat) (req : Request) (res : Response)
    (strm : Stream) : Except Stop ContentRead :=
  match parseMultipartBoundary (getHeaderValue req.headers "Content-Type".toList) with
  | none => .ok ⟨false, req, { res with status := 400 }, strm⟩
  | some boundary =>
      match readContent recvSize parse payloadMaxLength req.headers strm (.init boundary) with
      | none => .error .hang
      | some (received, status) =>
          let req := { req with
            files := req.files.emplaceAll (received.data.files.map fun file => (file.name, file)) }
          if !received.ok then .ok ⟨false, req, res.setStatus status, received.strm⟩
          else if !received.data.isValid then
            .ok ⟨false, req, { res with status := 400 }, received.strm⟩
          else .ok ⟨true, req, res, received.strm⟩

/-- `Server::read_content` of any other request. -/
def readBody (payloadMaxLength : Nat) (recvSize : Nat → Nat) (req : Request) (res : Response)
    (strm : Stream) : Except Stop ContentRead :=
  match readContent recvSize appendBody payloadMaxLength req.headers strm req.body with
  | none => .error .hang
  | some (received, status) =>
      let req := { req with body := received.data }
      if !received.ok then .ok ⟨false, req, res.setStatus status, received.strm⟩
      else
        let type := getHeaderValue req.headers "Content-Type".toList
        if "application/x-www-form-urlencoded".toList.isPrefixOf type then
          .ok ⟨true, { req with params := parseQueryText req.body req.params }, res, received.strm⟩
        else .ok ⟨true, req, res, received.strm⟩

/-- `Server::read_content` -/
def Server.readContent {σ : Type} (server : Server σ) (env : Environment) (req : Request)
    (res : Response) (strm : Stream) : Except Stop ContentRead :=
  if isMultipartFormData req.headers then
    readMultipart server.payloadMaxLength env.recvSize req res strm
  else readBody server.payloadMaxLength env.recvSize req res strm

section Serving

variable {σ : Type} (server : Server σ) (env : Environment)

/-! ## Handlers -/

/-- `Server::dispatch_request`: whether a handler came back, and with what. -/
def dispatchRequest (handlers : Handlers σ) (req : Request) (res : Response) (s : σ) :
    Except Stop (Bool × Response × σ) :=
  match handlers.find? fun h => h.1 req.path with
  | none => .ok (false, res, s)
  | some (_, handler) => do
      match ← handler req res s with
      | (.returned res, s) => return (true, res, s)
      | (.raised what res, s) =>
          return (false, { res with status := 500 }.setHeader "EXCEPTION_WHAT".toList what, s)

/-- The handlers that the end of `Server::routing` looks at. -/
def Server.handlersFor (method : Text) : Option (Handlers σ) :=
  if method = "GET".toList ∨ method = "HEAD".toList then some server.getHandlers
  else if method = "POST".toList then some server.postHandlers
  else if method = "PUT".toList then some server.putHandlers
  else if method = "DELETE".toList then some server.deleteHandlers
  else if method = "OPTIONS".toList then some server.optionsHandlers
  else if method = "PATCH".toList then some server.patchHandlers
  else none

variable {server} in
theorem handlersFor_cases {method : Text} {hs : Handlers σ}
    (h : server.handlersFor method = some hs) :
    ((method = "GET".toList ∨ method = "HEAD".toList) ∧ hs = server.getHandlers) ∨
      (method = "POST".toList ∧ hs = server.postHandlers) ∨ hs = server.putHandlers ∨
        hs = server.deleteHandlers ∨ hs = server.optionsHandlers ∨ hs = server.patchHandlers := by
  unfold Server.handlersFor at h
  split at h
  · next hget => exact Or.inl ⟨hget, (Option.some.inj h).symm⟩
  split at h
  · next hpost => exact Or.inr (Or.inl ⟨hpost, (Option.some.inj h).symm⟩)
  refine Or.inr (Or.inr ?_)
  split at h
  · exact Or.inl (Option.some.inj h).symm
  split at h
  · exact Or.inr (Or.inl (Option.some.inj h).symm)
  split at h
  · exact Or.inr (Or.inr (Or.inl (Option.some.inj h).symm))
  split at h
  · exact Or.inr (Or.inr (Or.inr (Option.some.inj h).symm))
  · cases h

/-- The end of `Server::routing`. -/
def Server.dispatch (req : Request) (res : Response) (s : σ) :
    Except Stop (Bool × Response × σ) :=
  match server.handlersFor req.method with
  | some handlers => dispatchRequest handlers req res s
  | none => .ok (false, { res with status := 400 }, s)

/-- What a request was routed to. -/
structure Routed (σ : Type) where
  ok : Bool
  req : Request
  res : Response
  strm : Stream
  state : σ

/-- `Server::routing`; no handler reads the content itself. -/
def Server.routing (req : Request) (res : Response) (strm : Stream) (s : σ) :
    Except Stop (Routed σ) := do
  let file := if req.method = "GET".toList ∨ req.method = "HEAD".toList then
    handleFileRequest env.files server.baseDirs req.path res else none
  match file with
  | some answered => return ⟨true, req, ← answered, strm, s⟩
  | none =>
      if expectContent req.method then
        let content ← server.readContent env req res strm
        if !content.ok then return ⟨false, content.req, content.res, content.strm, s⟩
        let (ok, res, s) ← server.dispatch content.req content.res s
        return ⟨ok, content.req, res, content.strm, s⟩
      else
        let (ok, res, s) ← server.dispatch req res s
        return ⟨ok, req, res, strm, s⟩

/-! ## One request -/

/-- The beginning of `Server::write_response`: the error handler. What it throws is not
caught. -/
def Server.handleError (req : Request) (res : Response) (s : σ) : Except Stop (Response × σ) :=
  match server.errorHandler with
  | none => return (res, s)
  | some handler => do
      if res.status < 400 then return (res, s)
      match ← handler req res s with
      | (.returned res, s) => return (res, s)
      | (.raised _ _, _) => throw .terminate

/-- `Server::write_response` -/
def Server.writeResponse (boundary : Text) (lastConnection : Bool) (req : Request)
    (res : Response) (s : σ) : Except Stop (Text × σ) := do
  let (res, s) ← server.handleError req res s
  match Http.writeResponse boundary lastConnection req res with
  | some text => return (text, s)
  | none => throw .terminate

/-- What processing a request comes to. -/
structure Processed (σ : Type) where
  ret : Bool
  connectionClose : Bool
  strm : Stream
  written : Text
  state : σ

/-- `res.version = "HTTP/1.1"` -/
def freshResponse : Response := { Response.init with version := "HTTP/1.1".toList }

/-- The response to a request that is not read on. -/
def Server.refuse (boundary : Text) (lastConnection : Bool) (req : Request) (status : Int)
    (strm : Stream) (s : σ) : Except Stop (Processed σ) := do
  let res := { freshResponse with status := status }
  let (written, s) ← server.writeResponse boundary lastConnection req res s
  return ⟨true, false, strm, written, s⟩

/-- The status of a response whose handler left it open. -/
def Response.close (res : Response) (ok : Bool) (ranges : List Range) : Response :=
  if res.status = -1 then
    { res with status := if ok then if ranges.isEmpty then 200 else 206 else 404 }
  else res

/-- The headers of a request with the address of the peer. -/
def Environment.addRemote (headers : Headers) : Headers :=
  Web.setHeader "REMOTE_PORT".toList (toDecimal env.remotePort)
    (Web.setHeader "REMOTE_ADDR".toList env.remoteAddr headers)

/-- What the peer gets before its content is read. -/
def continueLine (headers : Headers) : Text :=
  if getHeaderValue headers "Expect".toList = "100-continue".toList then
    statusLine 100 ++ crlf
  else []

/-- Whether the peer wants no more than this response. -/
def wantsClose (version : Text) (headers : Headers) : Bool :=
  let connection := getHeaderValue headers "Connection".toList
  connection == "close".toList ||
    (version == "HTTP/1.0".toList && connection != "Keep-Alive".toList)

/-- The ranges of a request, read from its headers. -/
def readRangeField (headers : Headers) : Except Stop (List Range) :=
  if hasHeader headers "Range".toList then
    match parseRangeHeader (getHeaderValue headers "Range".toList) with
    | none => throw .terminate
    | some (_, ranges) => return ranges
  else return []

/-- `process_request` once it has the request line and the headers. -/
def Server.processHeaders (boundary : Text) (lastConnection : Bool) (req : Request)
    (strm : Stream) (s : σ) : Except Stop (Processed σ) := do
  let headers := env.addRemote req.headers
  let ranges ← readRangeField headers
  let routed ← server.routing env { req with headers := headers, ranges := ranges } freshResponse
    strm s
  let res := routed.res.close routed.ok ranges
  let (written, s) ← server.writeResponse boundary lastConnection routed.req res routed.state
  return ⟨true, wantsClose req.version req.headers, routed.strm, continueLine headers ++ written, s⟩

/-- `Server::process_request` -/
def Server.processRequest (boundary : Text) (lastConnection : Bool) (strm : Stream) (s : σ) :
    Except Stop (Processed σ) :=
  match strm.getline with
  | none => return ⟨false, false, strm.drained, [], s⟩
  | some (line, strm) =>
      if 8192 < line.length then
        let (_, _, strm) := readHeaders strm []
        server.refuse boundary lastConnection .init 414 strm s
      else
        match parseRequestLine line with
        | none => server.refuse boundary lastConnection .init 400 strm s
        | some req =>
            let (complete, headers, strm) := readHeaders strm req.headers
            let req := { req with headers := headers }
            if complete then server.processHeaders env boundary lastConnection req strm s
            else server.refuse boundary lastConnection req 400 strm s

/-! ## A connection -/

/-- `CPPHTTPLIB_KEEPALIVE_MAX_COUNT` -/
def keepAliveMaxCount : Nat := 5

/-- The loop of `detail::process_socket`, for so many requests: what is written, what is
left on the connection and the state. With nothing to be read it ends. -/
def processSocketWith (callback : Text → Bool → Stream → σ → Except Stop (Processed σ)) :
    (count : Nat) → Stream → σ → Except Stop (Text × Stream × σ)
  | 0, strm, s => return ([], strm, s)
  | count + 1, strm, s => do
      if strm.input.isEmpty then return ([], strm, s)
      let done ← callback (env.boundary count) (count == 0) strm s
      if !done.ret || done.connectionClose then return (done.written, done.strm, done.state)
      let (written, strm, s) ← processSocketWith callback count done.strm done.state
      return (done.written ++ written, strm, s)

/-- `detail::process_socket` with `Server::process_request`. -/
def Server.processSocket (count : Nat) (strm : Stream) (s : σ) : Except Stop (Text × Stream × σ) :=
  processSocketWith env (server.processRequest env) count strm s

theorem Server.processSocket_zero (strm : Stream) (s : σ) :
    server.processSocket env 0 strm s = .ok ([], strm, s) := rfl

theorem Server.processSocket_succ (count : Nat) (strm : Stream) (s : σ) :
    server.processSocket env (count + 1) strm s = (do
      if strm.input.isEmpty then return ([], strm, s)
      let done ← server.processRequest env (env.boundary count) (count == 0) strm s
      if !done.ret || done.connectionClose then return (done.written, done.strm, done.state)
      let (written, strm, s) ← server.processSocket env count done.strm done.state
      return (done.written ++ written, strm, s)) := rfl

/-! ## The stack of a worker -/

/-- The texts that `detail::read_headers` matches with its expression. -/
def headerTextsFrom : (fuel : Nat) → Stream → List Text
  | 0, _ => []
  | fuel + 1, strm =>
      match strm.getline with
      | none => []
      | some (line, strm) =>
          if endWithCrlf line then
            if line.length = 2 then []
            else (line.take (line.length - 2)).rdropWhile isBlank :: headerTextsFrom fuel strm
          else headerTextsFrom fuel strm

/-- The texts of one request that are matched with the expressions for its line and its
headers. -/
def matchedTexts (strm : Stream) : List Text :=
  match strm.getline with
  | none => []
  | some (line, strm) =>
      let headers := headerTextsFrom (strm.input.length + 1) strm
      if 8192 < line.length then headers
      else cstr line :: if (parseRequestLine line).isSome then headers else []

-- whether a text is too deep: `std::regex_match` calls itself for every character that it
-- repeats an expression for
variable (deep : Text → Bool)

/-- `Server::process_request` on a stack that deep texts exhaust. -/
def Server.processRequestWithin (boundary : Text) (lastConnection : Bool) (strm : Stream) (s : σ) :
    Except Stop (Processed σ) :=
  if (matchedTexts strm).any deep then throw .terminate
  else server.processRequest env boundary lastConnection strm s

/-- `detail::process_socket` on such a stack. -/
def Server.processSocketWithin (count : Nat) (strm : Stream) (s : σ) :
    Except Stop (Text × Stream × σ) :=
  processSocketWith env (server.processRequestWithin env deep) count strm s

end Serving

end HelpCovid.Http
