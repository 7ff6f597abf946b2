import HelpCovid.Http.Range
import HelpCovid.Http.RequestLine

/-!
# Writing a response

`write_response` completes the headers of a response, cuts its body to the parts
that were asked for and writes a status line, the headers and the body. A client
that reads it back as `Client::process_request` does gets the status, every header
of the handler and the body, and what comes after the response is left
(`receiveResponse_writeResponse`).

Content providers are not used by this server and are left out.
-/

namespace HelpCovid.Http

open CText Web

/-! ## The status line -/

/-- The cases of `detail::status_message` but the default. -/
def statusMessages : List (Int × String) :=
  [(100, "Continue"), (101, "Switching Protocol"), (102, "Processing"), (103, "Early Hints"),
    (200, "OK"), (201, "Created"), (202, "Accepted"), (203, "Non-Authoritative Information"),
    (204, "No Content"), (205, "Reset Content"), (206, "Partial Content"), (207, "Multi-Status"),
    (208, "Already Reported"), (226, "IM Used"), (300, "Multiple Choice"),
    (301, "Moved Permanently"), (302, "Found"), (303, "See Other"), (304, "Not Modified"),
    (305, "Use Proxy"), (306, "unused"), (307, "Temporary Redirect"),
    (308, "Permanent Redirect"), (400, "Bad Request"), (401, "Unauthorized"),
    (402, "Payment Required"), (403, "Forbidden"), (404, "Not Found"),
    (405, "Method Not Allowed"), (406, "Not Acceptable"), (407, "Proxy Authentication Required"),
    (408, "Request Timeout"), (409, "Conflict"), (410, "Gone"), (411, "Length Required"),
    (412, "Precondition Failed"), (413, "Payload Too Large"), (414, "URI Too Long"),
    (415, "Unsupported Media Type"), (416, "Range Not Satisfiable"), (417, "Expectation Failed"),
    (418, "I'm a teapot"), (421, "Misdirected Request"), (422, "Unprocessable Entity"),
    (423, "Locked"), (424, "Failed Dependency"), (425, "Too Early"), (426, "Upgrade Required"),
    (428, "Precondition Required"), (429, "Too Many Requests"),
    (431, "Request Header Fields Too Large"), (451, "Unavailable For Legal Reasons"),
    (501, "Not Implemented"), (502, "Bad Gateway"), (503, "Service Unavailable"),
    (504, "Gateway Timeout"), (505, "HTTP Version Not Supported"),
    (506, "Variant Also Negotiates"), (507, "Insufficient Storage"), (508, "Loop Detected"),
    (510, "Not Extended"), (511, "Network Authentication Required")]

/-- `detail::status_message` -/
def statusMessage (status : Int) : Text :=
  ((statusMessages.lookup status).getD "Internal Server Error").toList

/-- `"HTTP/1.1 %d %s\r\n"` -/
def statusLine (status : Int) : Text :=
  "HTTP/1.1".toList ++ ' ' :: (signedDecimal status ++ ' ' :: (statusMessage status ++ crlf))

/-! ## Completing the response -/

/-- `has_header(key)` -/
def hasHeader (headers : Headers) (key : Text) : Bool := (findHeader key headers).isSome

/-- `headers.erase(headers.find(key))` -/
def eraseHeader (headers : Headers) (key : Text) : Headers :=
  headers.eraseP fun h => h.1.map Char.toLower == key.map Char.toLower

/-- The headers that do not depend on the ranges. -/
def Response.setConnection (res : Response) (lastConnection : Bool) (req : Request) : Response :=
  let connection := getHeaderValue req.headers "Connection".toList
  let res := if lastConnection ∨ connection = "close".toList then
    res.setHeader "Connection".toList "close".toList else res
  let res := if ¬ lastConnection ∧ connection = "Keep-Alive".toList then
    res.setHeader "Connection".toList "Keep-Alive".toList else res
  let res := if hasHeader res.headers "Content-Type".toList = false ∧ res.body ≠ [] then
    res.setHeader "Content-Type".toList "text/plain".toList else res
  if hasHeader res.headers "Accept-Ranges".toList = false ∧ req.method = "HEAD".toList then
    res.setHeader "Accept-Ranges".toList "bytes".toList else res

/-- Several parts are sent with a boundary. -/
def Response.setByteranges (res : Response) (boundary : Text) : Response :=
  let headers := eraseHeader res.headers "Content-Type".toList
  let type := "multipart/byteranges; boundary=".toList ++ boundary
  { res with headers := headers ++ [("Content-Type".toList, type)] }

/-- The body that is sent; `none` when `substr` throws. -/
def Response.cutBody (res : Response) (ranges : List Range) (boundary contentType : Text) :
    Option Response :=
  match ranges with
  | [] => some res
  | [r] => do
      let (offset, length) := getRangeOffsetAndLength r res.body.length
      let field := makeContentRangeHeaderField offset length res.body.length
      let body ← part res.body r
      return { res.setHeader "Content-Range".toList field with body := body }
  | ranges => do
      let body ← makeMultipartRangesData ranges res.body boundary contentType
      return { res with body := body }

/-- The response as it is sent. -/
def Response.complete (res : Response) (boundary : Text) (lastConnection : Bool) (req : Request) :
    Option Response := do
  let res := res.setConnection lastConnection req
  let contentType := (findHeader "Content-Type".toList res.headers).getD []
  let res := if 1 < req.ranges.length then res.setByteranges boundary else res
  let res ← if res.body = [] then some res else res.cutBody req.ranges boundary contentType
  return res.setHeader "Content-Length".toList (toDecimal res.body.length)

/-- `Server::write_response` after the error handler: what is written. -/
def writeResponse (boundary : Text) (lastConnection : Bool) (req : Request) (res : Response) :
    Option Text := do
  let res ← res.complete boundary lastConnection req
  return statusLine res.status ++ writeHeaders res.headers ++
    if req.method = "HEAD".toList then [] else res.body

/-! ## Reading a response -/

/-- `(HTTP/1\.[01]) (\d+?) .*` and the end of the line; the number fits `int`. -/
def matchResponseLine (s : Text) : Option (Text × Int) := do
  let version := s.take 8
  guard (versions.contains version)
  let s ← literal [' '] (s.drop 8)
  let digits := s.takeWhile Char.isDigit
  guard (digits ≠ [])
  let s ← literal [' '] (s.drop digits.length)
  guard (endWithCrlf s ∧ (s.take (s.length - 2)).all isDot)
  return (version, decimalNumber digits)

/-- `Client::read_response_line`: a line of another form is no error. -/
def readResponseLine (strm : Stream) (res : Response) : Option (Response × Stream) := do
  let (line, strm) ← strm.getline
  match matchResponseLine (cstr line) with
  | some (version, status) => return ({ res with version := version, status := status }, strm)
  | none => return (res, strm)

/-- The second half of `Client::process_request`: a response to a request. -/
def receiveResponse (recvSize : Nat → Nat) (method : Text) (strm : Stream) :
    Option (Response × Stream) := do
  let (res, strm) ← readResponseLine strm .init
  let (complete, headers, strm) := readHeaders strm res.headers
  guard complete
  let res := { res with headers := headers }
  if method = "HEAD".toList ∨ method = "CONNECT".toList then return (res, strm)
  let (received, _) ← readContent recvSize appendBody (2 ^ 64 - 1) res.headers strm res.body
  guard received.ok
  return ({ res with body := received.data }, received.strm)

/-! ## What a client reads -/

/-- The keys of the headers that say where a body ends. -/
def framingKeys : List Text :=
  ["content-length", "transfer-encoding", "content-encoding"].map String.toList

/-- A header that a handler may set: it is read as it is written, and leaves the end of
the body to `write_response`. -/
structure IsPlainHeader (h : Text × Text) : Prop where
  field : IsField h
  key_nul : '\x00' ∉ h.1
  value_nul : '\x00' ∉ h.2
  key : framingKeys.contains (h.1.map Char.toLower) = false

/-- Only plain headers are sent. -/
def Plain (headers : Headers) : Prop :=
  ∀ e ∈ headers, e.1 ≠ "EXCEPTION_WHAT".toList → IsPlainHeader e

/-- Completing a response only adds plain headers to it. -/
structure Extends (res res' : Response) : Prop where
  status : res'.status = res.status
  body : res'.body = res.body
  headers : ∀ e ∈ res.headers, e ∈ res'.headers
  plain : Plain res.headers → Plain res'.headers

theorem Extends.refl (res : Response) : Extends res res :=
  ⟨rfl, rfl, fun _ he => he, fun h => h⟩

theorem Extends.trans {a b c : Response} (h : Extends a b) (h' : Extends b c) : Extends a c :=
  ⟨h'.status.trans h.status, h'.body.trans h.body, fun e he => h'.headers e (h.headers e he),
    fun hplain => h'.plain (h.plain hplain)⟩

theorem extends_setHeader (res : Response) {key val : Text} (h : IsPlainHeader (key, val)) :
    Extends res (res.setHeader key val) := by
  refine ⟨rfl, rfl, fun e he => ?_, fun hplain e he hne => ?_⟩
  · rw [Response.setHeader, Web.setHeader]
    split
    · exact List.mem_append_left _ he
    · exact he
  · rw [Response.setHeader, Web.setHeader] at he
    split at he
    · rcases List.mem_append.mp he with hold | hnew
      · exact hplain e hold hne
      · rw [List.mem_singleton.mp hnew]
        exact h
    · exact hplain e he hne

theorem extends_ite {p : Prop} [Decidable p] {res : Response} {key val : Text}
    (h : IsPlainHeader (key, val)) : Extends res (if p then res.setHeader key val else res) := by
  split
  · exact extends_setHeader res h
  · exact .refl res

/-- The headers for the connection are plain ones. -/
theorem extends_setConnection (res : Response) (lastConnection : Bool) (req : Request) :
    Extends res (res.setConnection lastConnection req) := by
  have hclose : IsPlainHeader ("Connection".toList, "close".toList) := by
    refine ⟨⟨?_, ?_, ?_, ?_, ?_, ?_⟩, ?_, ?_, ?_⟩ <;> decide
  have hkeep : IsPlainHeader ("Connection".toList, "Keep-Alive".toList) := by
    refine ⟨⟨?_, ?_, ?_, ?_, ?_, ?_⟩, ?_, ?_, ?_⟩ <;> decide
  have htype : IsPlainHeader ("Content-Type".toList, "text/plain".toList) := by
    refine ⟨⟨?_, ?_, ?_, ?_, ?_, ?_⟩, ?_, ?_, ?_⟩ <;> decide
  have haccept : IsPlainHeader ("Accept-Ranges".toList, "bytes".toList) := by
    refine ⟨⟨?_, ?_, ?_, ?_, ?_, ?_⟩, ?_, ?_, ?_⟩ <;> decide
  exact (extends_ite hclose).trans ((extends_ite hkeep).trans ((extends_ite htype).trans
    (extends_ite haccept)))

/-- The headers that a client finds, in the order in which it finds them. -/
def received (headers : Headers) : Headers :=
  (ordered headers).filter (·.1 ≠ "EXCEPTION_WHAT".toList)

theorem mem_received {headers : Headers} {e : Text × Text} :
    e ∈ received headers ↔ e ∈ headers ∧ e.1 ≠ "EXCEPTION_WHAT".toList := by
  rw [received, List.mem_filter, ordered, (List.mergeSort_perm headers _).mem_iff,
    decide_eq_true_eq]

/-- Headers that are read as they are written, and have no zero byte, come back. -/
theorem readHeaders_received {headers : Headers} (hfield : ∀ e ∈ received headers, IsField e)
    (hnul : ∀ e ∈ received headers, '\x00' ∉ e.1 ∧ '\x00' ∉ e.2) (rest : Text)
    (failing : Bool) :
    readHeaders ⟨writeHeaders headers ++ rest, failing⟩ [] =
      (true, received headers, ⟨rest, failing⟩) := by
  have hblock : writeHeaders headers = block ((received headers).map fieldLine) := by
    rw [writeHeaders, block, List.flatMap_map]
    refine congrArg (· ++ crlf) (List.flatMap_congr fun e he => ?_)
    have hplain := hnul e he
    rw [writtenLine, cstr_of_notMem hplain.1, cstr_of_notMem hplain.2, fieldLine]
    simp
  rw [hblock]
  exact readHeaders_fields hfield rest failing []

theorem findHeader_eq_none {headers : Headers} {key : Text}
    (h : ∀ e ∈ headers, e.1.map Char.toLower ≠ key.map Char.toLower) :
    findHeader key headers = none := by
  rw [findHeader, List.find?_eq_none.mpr fun e he => by simpa using h e he]
  rfl

/-- A key that only one header has is found whatever the order. -/
theorem findHeader_of_unique {headers : Headers} {key val : Text} (hmem : (key, val) ∈ headers)
    (h : ∀ e ∈ headers, e.1.map Char.toLower = key.map Char.toLower → e = (key, val)) :
    findHeader key headers = some val := by
  cases hfind : headers.find? fun e => e.1.map Char.toLower == key.map Char.toLower with
  | none =>
      have hno := List.find?_eq_none.mp hfind _ hmem
      simp at hno
  | some e =>
      have hkey := List.find?_some hfind
      have he := h e (List.mem_of_find?_eq_some hfind) (by simpa using hkey)
      rw [findHeader, hfind, he]
      rfl

/-! ## The status line -/

theorem statusMessage_plain (status : Int) :
    (statusMessage status).all (fun c => isDot c && c != '\x00') = true := by
  have htable : statusMessages.all fun e =>
      e.2.toList.all fun c => isDot c && c != '\x00' := by decide
  rw [statusMessage]
  cases hlookup : statusMessages.lookup status with
  | none => decide
  | some message =>
      rcases List.lookup_eq_some_iff.mp hlookup with ⟨before, after, heq, -⟩
      refine List.all_eq_true.mp htable (status, message) ?_
      rw [heq]
      simp

theorem signedDecimal_natCast (n : Nat) : signedDecimal n = toDecimal n := by
  rw [signedDecimal, if_neg (by omega), Int.natAbs_natCast]

/-- The line of a response is taken apart into what it was made of. -/
theorem matchResponseLine_append {version digits message : Text} (hversion : version ∈ versions)
    (hne : digits ≠ []) (hdigits : ∀ c ∈ digits, c.isDigit = true)
    (hmessage : message.all isDot = true) :
    matchResponseLine (version ++ ' ' :: (digits ++ ' ' :: (message ++ crlf))) =
      some (version, (decimalNumber digits : Int)) := by
  have hlength : version.length = 8 := (mem_versions_plain hversion).1
  have htake : (version ++ ' ' :: (digits ++ ' ' :: (message ++ crlf))).take 8 = version :=
    List.take_left' hlength
  have hdrop : (version ++ ' ' :: (digits ++ ' ' :: (message ++ crlf))).drop 8 =
      [' '] ++ (digits ++ ' ' :: (message ++ crlf)) := List.drop_left' hlength
  have hnumber : (digits ++ ' ' :: (message ++ crlf)).takeWhile Char.isDigit = digits := by
    rw [List.takeWhile_append_of_pos hdigits, List.takeWhile_cons_of_neg (by decide),
      List.append_nil]
  have hafter : (digits ++ ' ' :: (message ++ crlf)).drop digits.length =
      [' '] ++ (message ++ crlf) := List.drop_left
  have hend : (message ++ crlf).take ((message ++ crlf).length - 2) = message := by
    rw [List.length_append]
    exact List.take_left' rfl
  have hcontains : versions.contains version = true := List.contains_iff_mem.mpr hversion
  rw [matchResponseLine]
  simp only [htake, hdrop, hcontains, guard, if_true, literal_append, hnumber, hne, ne_eq,
    not_false_eq_true, hafter, endWithCrlf_append, hend, hmessage, and_self,
    Option.bind_eq_bind, Option.pure_def, Option.bind_some]

/-- The status line is read back, and what follows it is left. -/
theorem readResponseLine_append {version digits message : Text} (hversion : version ∈ versions)
    (hne : digits ≠ []) (hdigits : ∀ c ∈ digits, c.isDigit = true)
    (hmessage : ∀ c ∈ message, isDot c = true ∧ c ≠ '\x00') (rest : Text) (failing : Bool)
    (res : Response) :
    readResponseLine ⟨version ++ ' ' :: (digits ++ ' ' :: (message ++ crlf)) ++ rest, failing⟩ res =
      some ({ res with version := version, status := decimalNumber digits }, ⟨rest, failing⟩) := by
  have hplain : ∀ c ∈ version ++ ' ' :: (digits ++ ' ' :: message), c ≠ '\n' ∧ c ≠ '\x00' := by
    intro c hc
    have hmem : c ∈ version ∨ c = ' ' ∨ c ∈ digits ∨ c = ' ' ∨ c ∈ message := by
      simpa only [List.mem_append, List.mem_cons] using hc
    rcases hmem with hmem | rfl | hmem | rfl | hmem
    · have hc := (mem_versions_plain hversion).2 c hmem
      exact ⟨hc.2, hc.1⟩
    · decide
    · have hdigit := hdigits c hmem
      exact ⟨fun heq => absurd (heq ▸ hdigit) (by decide),
        fun heq => absurd (heq ▸ hdigit) (by decide)⟩
    · decide
    · have hdot := hmessage c hmem
      simp only [isDot, Bool.and_eq_true, bne_iff_ne] at hdot
      exact ⟨hdot.1.1, hdot.2⟩
  have hline : version ++ ' ' :: (digits ++ ' ' :: (message ++ crlf)) =
      version ++ ' ' :: (digits ++ ' ' :: message) ++ crlf := by simp
  have hcstr : cstr (version ++ ' ' :: (digits ++ ' ' :: message) ++ crlf) =
      version ++ ' ' :: (digits ++ ' ' :: message) ++ crlf := by
    refine cstr_of_notMem fun hmem => ?_
    rcases List.mem_append.mp hmem with hl | hend
    · exact (hplain _ hl).2 rfl
    · exact absurd hend (by decide)
  have hmatch := matchResponseLine_append hversion hne hdigits
    (List.all_eq_true.mpr fun c hc => (hmessage c hc).1)
  rw [hline] at hmatch ⊢
  rw [readResponseLine, getline_crlf fun hmem => (hplain _ hmem).1 rfl]
  simp only [Option.bind_eq_bind, Option.bind_some, hcstr, hmatch, Option.pure_def]

theorem readResponseLine_statusLine (n : Nat) (rest : Text) (failing : Bool) (res : Response) :
    readResponseLine ⟨statusLine n ++ rest, failing⟩ res =
      some ({ res with version := "HTTP/1.1".toList, status := n }, ⟨rest, failing⟩) := by
  have hmessage : ∀ c ∈ statusMessage n, isDot c = true ∧ c ≠ '\x00' := by
    intro c hc
    simpa using List.all_eq_true.mp (statusMessage_plain n) c hc
  have hmember : "HTTP/1.1".toList ∈ versions := by decide
  unfold statusLine
  rw [signedDecimal_natCast,
    readResponseLine_append hmember (toDecimal_ne_nil n) (fun c hc => isDigit_of_mem_toDecimal hc)
      hmessage, decimalNumber_toDecimal]

/-! ## The whole response -/

/-- The length of the body, which `write_response` sets last. -/
theorem isField_contentLength (n : Nat) : IsField ("Content-Length".toList, toDecimal n) := by
  have hdigit : ∀ c, c.isDigit = true → isDot c = true ∧ isBlank c = false := by
    intro c hc
    have hne : ∀ d, d.isDigit = false → c ≠ d := fun d hd heq => by simp [heq, hd] at hc
    simp [isDot, isBlank, hne '\n' rfl, hne '\r' rfl, hne ' ' rfl, hne '\t' rfl]
  have hall : ∀ c ∈ toDecimal n, c.isDigit = true := fun c hc => isDigit_of_mem_toDecimal hc
  have hkey : "Content-Length".toList ≠ [] ∧ ':' ∉ "Content-Length".toList ∧
      '\n' ∉ "Content-Length".toList := by decide
  refine ⟨hkey.1, hkey.2, toDecimal_ne_nil n, ?_, ?_, ?_⟩
  · exact List.all_eq_true.mpr fun c hc => (hdigit c (hall c hc)).1
  · exact fun c hc => (hdigit c (hall c (List.mem_of_mem_head? hc))).2
  · exact fun c hc => (hdigit c (hall c (List.mem_of_mem_getLast? hc))).2

theorem setHeader_contentLength (res : Response) (n : Nat) :
    res.setHeader "Content-Length".toList (toDecimal n) =
      { res with headers := res.headers ++ [("Content-Length".toList, toDecimal n)] } := by
  have hkey : hasCrlf "Content-Length".toList = false := by decide
  have hval : hasCrlf (toDecimal n) = false := by
    have hdigit : ∀ d, d.isDigit = false → d ∉ toDecimal n := fun d hd hmem => by
      simp [isDigit_of_mem_toDecimal hmem] at hd
    exact hasCrlf_eq_false (hdigit '\r' rfl) (hdigit '\n' rfl)
  rw [Response.setHeader, Web.setHeader, hkey, hval]
  rfl

/-- Without ranges the response is the one of the handler, with plain headers and the
length of its body added. -/
theorem complete_of_no_ranges {res : Response} {req : Request} (hranges : req.ranges = [])
    (boundary : Text) (lastConnection : Bool) :
    ∃ res', Extends res res' ∧ res.complete boundary lastConnection req =
      some { res' with
        headers := res'.headers ++ [("Content-Length".toList, toDecimal res.body.length)] } := by
  have hext := extends_setConnection res lastConnection req
  refine ⟨_, hext, ?_⟩
  rw [Response.complete, hranges]
  simp only [List.length_nil, Nat.not_lt_zero, if_false, Response.cutBody, ite_self,
    Option.bind_eq_bind, Option.bind_some, Option.pure_def, setHeader_contentLength, hext.body]

theorem IsPlainHeader.key_ne {e : Text × Text} (h : IsPlainHeader e) {key : Text}
    (hkey : framingKeys.contains (key.map Char.toLower) = true) :
    e.1.map Char.toLower ≠ key.map Char.toLower := by
  intro heq
  have hno := h.key
  rw [heq, hkey] at hno
  cases hno

/-- The headers of a response, as a client finds them, frame its body. -/
theorem framed_received {headers : Headers} (hplain : Plain headers)
    {body : Text} (hsize : body.length < 2 ^ 64) :
    getHeaderValue (received (headers ++ [("Content-Length".toList, toDecimal body.length)]))
        "Content-Encoding".toList ≠ "gzip".toList ∧
      Framed (2 ^ 64 - 1) (received (headers ++
        [("Content-Length".toList, toDecimal body.length)])) body body := by
  let length := ("Content-Length".toList, toDecimal body.length)
  have hmem : ∀ e ∈ received (headers ++ [length]), IsPlainHeader e ∨ e = length := by
    intro e he
    rcases mem_received.mp he with ⟨hmem, hne⟩
    rcases List.mem_append.mp hmem with hold | hnew
    · exact Or.inl (hplain e hold hne)
    · exact Or.inr (List.mem_singleton.mp hnew)
  have hlength : length ∈ received (headers ++ [length]) := by
    refine mem_received.mpr ⟨by simp, ?_⟩
    have hne : "Content-Length".toList ≠ "EXCEPTION_WHAT".toList := by decide
    exact hne
  have hother : ∀ key : Text, framingKeys.contains (key.map Char.toLower) = true →
      "Content-Length".toList.map Char.toLower ≠ key.map Char.toLower →
      findHeader key (received (headers ++ [length])) = none := by
    intro key hkey hne
    refine findHeader_eq_none fun e he => ?_
    rcases hmem e he with hold | rfl
    · exact hold.key_ne hkey
    · exact hne
  have hencoding := hother "Content-Encoding".toList (by decide) (by decide)
  have htransfer := hother "Transfer-Encoding".toList (by decide) (by decide)
  have hfound : findHeader "Content-Length".toList (received (headers ++ [length])) =
      some (toDecimal body.length) := by
    refine findHeader_of_unique hlength fun e he heq => ?_
    rcases hmem e he with hold | rfl
    · exact absurd heq (hold.key_ne (by decide))
    · rfl
  refine ⟨?_, .length ?_ hfound (toDecimal_ne_nil _) (fun c hc => isDigit_of_mem_toDecimal hc)
    (decimalNumber_toDecimal _) (by omega)⟩
  · rw [getHeaderValue, hencoding]
    decide
  · rw [isChunkedTransferEncoding, getHeaderValue, htransfer]
    decide

/-- What is written for a request is one response: a client reads its status, every
header of the handler and the body, unless it asked for none, and no more. -/
theorem receiveResponse_writeResponse {req : Request} {res : Response} (hranges : req.ranges = [])
    (hmethod : req.method ≠ "CONNECT".toList) (hstatus : 0 ≤ res.status)
    (hplain : Plain res.headers) (hsize : res.body.length < 2 ^ 64) (boundary : Text)
    (lastConnection : Bool) :
    ∃ text headers, writeResponse boundary lastConnection req res = some text ∧
      (∀ e ∈ res.headers, e.1 ≠ "EXCEPTION_WHAT".toList → e ∈ headers) ∧
      ∀ recvSize rest failing, receiveResponse recvSize req.method ⟨text ++ rest, failing⟩ = some
        ({ version := "HTTP/1.1".toList
           status := res.status
           headers := headers
           body := if req.method = "HEAD".toList then [] else res.body }, ⟨rest, failing⟩) := by
  rcases complete_of_no_ranges hranges boundary lastConnection with ⟨res', hext, hcomplete⟩
  let length := ("Content-Length".toList, toDecimal res.body.length)
  rcases Int.eq_ofNat_of_zero_le hstatus with ⟨n, hn⟩
  have hplain' := hext.plain hplain
  have hsent : ∀ e ∈ received (res'.headers ++ [length]),
      IsField e ∧ '\x00' ∉ e.1 ∧ '\x00' ∉ e.2 := by
    intro e he
    rcases mem_received.mp he with ⟨hmem, hne⟩
    rcases List.mem_append.mp hmem with hold | hnew
    · have hheader := hplain' e hold hne
      exact ⟨hheader.field, hheader.key_nul, hheader.value_nul⟩
    · rw [List.mem_singleton.mp hnew]
      have hkey : '\x00' ∉ "Content-Length".toList := by decide
      refine ⟨isField_contentLength _, hkey, fun hmem => ?_⟩
      exact absurd (isDigit_of_mem_toDecimal hmem) (by decide)
  rcases framed_received hplain' (hext.body.symm ▸ hsize) with ⟨hencoding, hframed⟩
  rw [hext.body] at hencoding hframed
  let text := statusLine res'.status ++ writeHeaders (res'.headers ++ [length]) ++
    if req.method = "HEAD".toList then [] else res'.body
  have hwritten : writeResponse boundary lastConnection req res = some text := by
    rw [writeResponse, hcomplete]
    rfl
  refine ⟨text, received (res'.headers ++ [length]), hwritten, ?_, ?_⟩
  · intro e he hne
    exact mem_received.mpr ⟨List.mem_append_left _ (hext.headers e he), hne⟩
  · intro recvSize rest failing
    have hsplit : text ++ rest = statusLine n ++ (writeHeaders (res'.headers ++ [length]) ++
          ((if req.method = "HEAD".toList then [] else res.body) ++ rest)) := by
      simp only [text, hext.status, hext.body, hn, List.append_assoc]
    have hheaders := readHeaders_received (fun e he => (hsent e he).1) (fun e he => (hsent e he).2)
      ((if req.method = "HEAD".toList then [] else res.body) ++ rest) failing
    rw [receiveResponse, hsplit, readResponseLine_statusLine]
    simp only [Option.bind_eq_bind, Option.bind_some, Response.init, hheaders, guard, if_true,
      Option.pure_def, hmethod, or_false, hn]
    by_cases hhead : req.method = "HEAD".toList
    · simp only [hhead, if_true, List.nil_append]
    · simp only [hhead, if_false]
      rw [readContent_append recvSize (by decide) hencoding hframed]
      rfl

/-! ## The parts that are sent -/

theorem mapM_eq_none {α β : Type*} {f : α → Option β} {xs : List α} :
    xs.mapM f = none ↔ ∃ x ∈ xs, f x = none := by
  induction xs with
  | nil => simp
  | cons x xs ih =>
      rw [List.mapM_cons, List.exists_mem_cons_iff, ← ih]
      cases f x <;> cases xs.mapM f <;> simp

theorem rangeData_eq_none (body boundary contentType : Text) (r : Range) :
    rangeData body boundary contentType r = none ↔ part body r = none := by
  unfold rangeData part
  rcases getRangeOffsetAndLength r body.length with ⟨offset, length⟩
  simp only
  cases substr body offset length with
  | none => exact iff_of_true rfl rfl
  | some content => exact iff_of_false (Option.some_ne_none _) (Option.some_ne_none _)

/-- The body cannot be cut exactly when one of the parts cannot. -/
theorem cutBody_eq_none (res : Response) (ranges : List Range) (boundary contentType : Text) :
    res.cutBody ranges boundary contentType = none ↔ ∃ r ∈ ranges, part res.body r = none := by
  unfold Response.cutBody
  split
  · simp
  · next r =>
      rw [List.exists_mem_cons_iff]
      cases part res.body r <;> simp
  · rw [makeMultipartRangesData]
    have hparts : ranges.mapM (rangeData res.body boundary contentType) = none ↔
        ∃ r ∈ ranges, part res.body r = none := by
      rw [mapM_eq_none]
      simp only [rangeData_eq_none]
    rw [← hparts]
    cases ranges.mapM (rangeData res.body boundary contentType) <;> simp

/-- A body that is not empty is cut as the handler left it. -/
theorem complete_eq_none {res : Response} (hbody : res.body ≠ []) (boundary : Text)
    (lastConnection : Bool) (req : Request) :
    res.complete boundary lastConnection req = none ↔
      ∃ r ∈ req.ranges, part res.body r = none := by
  have hext := extends_setConnection res lastConnection req
  let contentType := (findHeader "Content-Type".toList
    (res.setConnection lastConnection req).headers).getD []
  let headed := if 1 < req.ranges.length then
    (res.setConnection lastConnection req).setByteranges boundary
    else res.setConnection lastConnection req
  have hheaded : headed.body = res.body := by
    simp only [headed]
    split
    · exact hext.body
    · exact hext.body
  have hcut := cutBody_eq_none headed req.ranges boundary contentType
  rw [hheaded] at hcut
  rw [← hcut]
  have hcomplete : res.complete boundary lastConnection req =
      (headed.cutBody req.ranges boundary contentType).map fun res =>
        res.setHeader "Content-Length".toList (toDecimal res.body.length) := by
    rw [Response.complete]
    simp only
    rw [if_neg (hheaded.symm ▸ hbody)]
    cases headed.cutBody req.ranges boundary contentType <;> rfl
  rw [hcomplete, Option.map_eq_none_iff]

theorem complete_of_single {res res' : Response} (hbody : res.body ≠ []) {boundary : Text}
    {lastConnection : Bool} {req : Request} {r : Range} (hranges : req.ranges = [r])
    (h : res.complete boundary lastConnection req = some res') :
    part res.body r = some res'.body ∧ res'.status = res.status := by
  have hext := extends_setConnection res lastConnection req
  rw [Response.complete, hranges] at h
  simp only [List.length_singleton, Nat.lt_irrefl, if_false, Response.cutBody, hext.body,
    if_neg hbody, Option.bind_eq_bind] at h
  cases hpart : part res.body r with
  | none =>
      rw [hpart] at h
      cases h
  | some body =>
      rw [hpart] at h
      cases h
      exact ⟨rfl, hext.status⟩

theorem of_mem_inForce {specs : List RangeSpec} {spec : RangeSpec} (h : spec ∈ inForce specs) :
    reversed spec = false ∧ spec ∈ specs.take ((inForce specs).length + 1) := by
  refine ⟨by simpa using List.mem_takeWhile_imp h, ?_⟩
  have hprefix : inForce specs <+: specs.take ((inForce specs).length + 1) :=
    List.prefix_take_iff.mpr ⟨List.takeWhile_prefix _, Nat.le_succ _⟩
  exact hprefix.subset h

/-- What becomes of a response for a `Range` field. -/
def Response.forField (res : Response) (field boundary : Text) (lastConnection : Bool)
    (req : Request) : Option Response := do
  let (_, ranges) ← parseRangeHeader field
  res.complete boundary lastConnection { req with ranges := ranges }

/-- A request for parts of a body that is not empty ends the process exactly when one of its
numbers does not fit, up to the first part that is reversed, or when a part before that one
starts before the beginning or after the end of the body. -/
theorem forField_eq_none_iff {specs : List RangeSpec} {field : Text} (h : WritesRanges specs field)
    {res : Response} (hbody : res.body ≠ []) (hsize : res.body.length < 2 ^ 63) (boundary : Text)
    (lastConnection : Bool) (req : Request) :
    res.forField field boundary lastConnection req = none ↔
      (∃ spec ∈ specs.take ((inForce specs).length + 1), fits spec = false) ∨
        ∃ spec ∈ inForce specs, firstByte res.body.length spec < 0 ∨
          (res.body.length : Int) < firstByte res.body.length spec := by
  rw [Response.forField, parseRangeHeader_of_writes h]
  by_cases hfits : (specs.take ((inForce specs).length + 1)).all fits = true
  · have hnone : ¬ ∃ spec ∈ specs.take ((inForce specs).length + 1), fits spec = false := by
      rintro ⟨spec, hspec, hno⟩
      rw [List.all_eq_true.mp hfits spec hspec] at hno
      cases hno
    rw [if_pos hfits, or_iff_right hnone]
    simp only [Option.bind_eq_bind, Option.bind_some]
    have hmap : (∃ r ∈ (inForce specs).map toRange, part res.body r = none) ↔
        ∃ spec ∈ inForce specs, part res.body (toRange spec) = none := by
      simp only [List.mem_map, exists_exists_and_eq_and]
    rw [complete_eq_none hbody, hmap]
    refine exists_congr fun spec => and_congr_right fun hspec => ?_
    rcases of_mem_inForce hspec with ⟨hrev, hmem⟩
    rw [part_toRange (List.all_eq_true.mp hfits spec hmem) hrev hsize, ite_eq_right_iff]
    constructor
    · intro hno
      by_contra hin
      exact Option.some_ne_none _ (hno ⟨by omega, by omega⟩)
    · intro hout hin
      omega
  · rw [if_neg hfits]
    refine iff_of_true rfl (Or.inl ?_)
    simpa using hfits

/-- The process ends on a request for what is after the end of the body. -/
theorem forField_eq_none_past_end :
    (Response.setContent .init "HelpCovid".toList "text/plain".toList).forField
      "bytes=10-".toList [] false .init = none := by
  have hspec : WritesSpec (some 10, none) "10-".toList :=
    @WritesSpec.intro (some 10, none) ['1', '0'] [] (.digits (by decide) (by decide) (by decide))
      .omitted
  refine (forField_eq_none_iff (.intro hspec .nil) (by decide) (by decide) [] false .init).mpr ?_
  exact Or.inr ⟨(some 10, none), by decide, Or.inr (by decide)⟩

/-- For a single part the bytes that are sent are those that were asked for. -/
theorem body_of_forField {specs : List RangeSpec} {field : Text} (h : WritesRanges specs field)
    {spec : RangeSpec} (hspec : inForce specs = [spec]) {res res' : Response}
    (hbody : res.body ≠ []) (hsize : res.body.length < 2 ^ 63) {boundary : Text}
    {lastConnection : Bool} {req : Request}
    (hsent : res.forField field boundary lastConnection req = some res') :
    res'.body = wanted res.body spec ∧ res'.status = res.status := by
  rw [Response.forField, parseRangeHeader_of_writes h] at hsent
  split at hsent
  · next hfits =>
      simp only [Option.bind_eq_bind, Option.bind_some, hspec] at hsent
      rcases of_mem_inForce (hspec ▸ List.mem_singleton_self spec) with ⟨hrev, hmem⟩
      rcases complete_of_single hbody rfl hsent with ⟨hpart, hstatus⟩
      rw [part_toRange (List.all_eq_true.mp hfits spec hmem) hrev hsize] at hpart
      split at hpart
      · exact ⟨(Option.some.inj hpart).symm, hstatus⟩
      · cases hpart
  · cases hsent

/-- The last five bytes are sent. -/
theorem body_of_forField_suffix :
    ∃ res', (Response.setContent .init "HelpCovid".toList "text/plain".toList).forField
        "bytes=-5".toList [] false .init = some res' ∧ res'.body = "Covid".toList := by
  have hspec : WritesSpec (none, some 5) "-5".toList :=
    @WritesSpec.intro (none, some 5) [] ['5'] .omitted (.digits (by decide) (by decide) (by decide))
  cases hsent : (Response.setContent .init "HelpCovid".toList "text/plain".toList).forField
      "bytes=-5".toList [] false .init with
  | none => exact absurd hsent (by decide)
  | some res' =>
      have hforce : inForce [(none, some 5)] = [(none, some 5)] := by decide
      refine ⟨res', rfl, ?_⟩
      exact (body_of_forField (.intro hspec .nil) hforce (by decide) (by decide) hsent).1

end HelpCovid.Http
