import HelpCovid.Http.Connection

/-!
# Both sides of a connection

A client that sends its requests and then reads as many responses gets those that the
handlers gave to its requests, in order: what one side writes ends for the other side
where it was meant to end, over the whole connection (`conversation`). The handlers
may set any headers that are read as they are written, but none that tell where a
body ends.
-/

namespace HelpCovid.Http

open CText Web Machine

section Conversation

variable {σ : Type} (server : Server σ) (env : Environment)

/-! ## The responses -/

/-- The response to a request before it is completed and written. -/
def Server.respond (req : Request) (s : σ) : Except Stop (Response × σ) := do
  let (ok, res, s) ← server.route env req s
  server.handleError req (res.close ok req.ranges) s

/-- The responses to the first requests, with the methods, and the requests that are
left. -/
def Server.responses : (count : Nat) → List ClientRequest → σ →
    Except Stop (List (Text × Response) × List ClientRequest × σ)
  | 0, rs, s => return ([], rs, s)
  | _ + 1, [], s => return ([], [], s)
  | count + 1, r :: rs, s => do
      let (res, s) ← server.respond env (r.request env []) s
      if r.close then return ([(r.method, res)], rs, s)
      let (more, left, s) ← responses count rs s
      return ((r.method, res) :: more, left, s)

/-- A client reads the responses to requests of some methods. -/
def receiveResponses (recvSize : Nat → Nat) : List Text → Stream → Option (List Response × Stream)
  | [], strm => some ([], strm)
  | method :: methods, strm => do
      let (res, strm) ← receiveResponse recvSize method strm
      let (more, strm) ← receiveResponses recvSize methods strm
      return (res :: more, strm)

/-- A response that leaves the end of its body to `write_response`. -/
structure Courteous (res : Response) : Prop where
  status : 0 ≤ res.status
  plain : Plain res.headers
  size : res.body.length < 2 ^ 64

/-- A request for a whole body, without an interim response. -/
structure Ordinary (r : ClientRequest) : Prop where
  range : hasHeader (env.addRemote r.fields) "Range".toList = false
  expect : continueLine (env.addRemote r.fields) = []
  method : r.method ≠ "CONNECT".toList

/-- What a client got is the response that was given. -/
structure Matches (given : Text × Response) (got : Response) : Prop where
  status : got.status = given.2.status
  body : got.body = if given.1 = "HEAD".toList then [] else given.2.body
  headers : ∀ e ∈ given.2.headers, e.1 ≠ "EXCEPTION_WHAT".toList → e ∈ got.headers

/-! ## One response -/

variable {server env}

/-- The response that was given is written, and a client reads it. -/
theorem answerClient_of_respond {r : ClientRequest} (h : Ordinary env r) {res : Response} {s s' : σ}
    (hrespond : server.respond env (r.request env []) s = .ok (res, s')) (hres : Courteous res)
    (boundary : Text) (lastConnection : Bool) :
    ∃ text, server.answerClient env boundary lastConnection r s = .ok (text, s') ∧
      ∀ recvSize rest failing, ∃ got,
        receiveResponse recvSize r.method ⟨text ++ rest, failing⟩ = some (got, ⟨rest, failing⟩) ∧
          Matches (r.method, res) got := by
  rcases request_fields env r [] with ⟨hmethod, -, hranges⟩
  rcases receiveResponse_writeResponse hranges (hmethod ▸ h.method) hres.status hres.plain
    hres.size boundary lastConnection with ⟨text, headers, hwrite, hheaders, hread⟩
  rcases ok_of_bind hrespond with ⟨⟨ok, res₀, s₀⟩, hroute, herror⟩
  refine ⟨text, ?_, fun recvSize rest failing => ?_⟩
  · have hfield : readRangeField (env.addRemote r.fields) = .ok [] := by
      rw [readRangeField, h.range]
      rfl
    simp only at herror
    rw [Server.answerClient, hfield]
    simp only [ok_bind, Server.answer, hroute, Server.writeResponse, herror, hwrite, h.expect]
    rfl
  · rw [hmethod] at hread
    exact ⟨_, hread recvSize rest failing, rfl, rfl, hheaders⟩

/-! ## The whole conversation -/

/-- What the handlers respond is what the client reads, response by response. -/
theorem receiveResponses_answers {rs : List ClientRequest} (h : ∀ r ∈ rs, Ordinary env r)
    {count : Nat} {given : List (Text × Response)} {left : List ClientRequest} {s s' : σ}
    (hgiven : server.responses env count rs s = .ok (given, left, s'))
    (hplain : ∀ g ∈ given, Courteous g.2) :
    ∃ written, server.answers env count rs s = .ok (written, left, s') ∧
      ∀ recvSize rest failing, ∃ got,
        receiveResponses recvSize (given.map Prod.fst) ⟨written ++ rest, failing⟩ =
          some (got, ⟨rest, failing⟩) ∧ List.Forall₂ Matches given got := by
  induction count generalizing rs given s with
  | zero =>
      rw [Server.responses] at hgiven
      cases hgiven
      exact ⟨[], by rw [Server.answers]; rfl, fun _ rest failing => ⟨[], rfl, .nil⟩⟩
  | succ count ih =>
      cases rs with
      | nil =>
          cases hgiven
          exact ⟨[], rfl, fun _ rest failing => ⟨[], rfl, .nil⟩⟩
      | cons r rs =>
          rw [List.forall_mem_cons] at h
          rcases ok_of_bind hgiven with ⟨⟨res, s₁⟩, hrespond, hmore⟩
          have hone := fun hres => answerClient_of_respond h.1 hrespond hres (env.boundary count)
            (count == 0)
          simp only at hmore
          cases hclose : r.close with
          | true =>
              rw [hclose, if_pos rfl] at hmore
              cases hmore
              rcases hone (hplain _ List.mem_cons_self) with ⟨text, hanswer, hread⟩
              refine ⟨text, ?_, fun recvSize rest failing => ?_⟩
              · rw [Server.answers, hanswer, ok_bind, hclose]
                rfl
              · rcases hread recvSize rest failing with ⟨got, hgot, hmatch⟩
                refine ⟨[got], ?_, .cons hmatch .nil⟩
                simp only [List.map_cons, List.map_nil, receiveResponses, hgot]
                rfl
          | false =>
              rw [hclose, if_neg Bool.false_ne_true] at hmore
              rcases ok_of_bind hmore with ⟨⟨more, left', s₂⟩, hrest, hdone⟩
              cases hdone
              rw [List.forall_mem_cons] at hplain
              rcases hone hplain.1 with ⟨text, hanswer, hread⟩
              rcases ih h.2 hrest hplain.2 with ⟨written, hanswers, hreads⟩
              refine ⟨text ++ written, ?_, fun recvSize rest failing => ?_⟩
              · rw [Server.answers, hanswer, ok_bind, hclose]
                simp only [Bool.false_eq_true, if_false, hanswers, ok_bind]
                rfl
              · rcases hread recvSize (written ++ rest) failing with ⟨got, hgot, hmatch⟩
                rcases hreads recvSize rest failing with ⟨gots, hgots, hmatches⟩
                refine ⟨got :: gots, ?_, .cons hmatch hmatches⟩
                simp only [List.map_cons, receiveResponses, List.append_assoc, hgot,
                  Option.bind_eq_bind, Option.bind_some, hgots]
                rfl

end Conversation

/-! ## A conversation -/

end HelpCovid.Http
