import HelpCovid.Http.Message

/-!
# What arrives on a connection

A connection is the text that is still to be read from it, and how it goes on once
that is used up: the peer has closed it, or reading fails. The functions of the
server read a connection line by line (`stream_line_reader`) or by a number of
bytes. What they leave is a rest of what there was (`Stream.Rest`).
-/

namespace HelpCovid.Http

open CText

/-- What is to be read; `failing` tells that reading past it is an error, a
timeout for one, and not the end. -/
structure Stream where
  input : Text
  failing : Bool
deriving Repr, DecidableEq

namespace Stream

/-- The connection with nothing more to be read. -/
def drained (strm : Stream) : Stream := { strm with input := [] }

/-- The text up to the first newline, and with it. -/
def takeLine : Text → Text × Text
  | [] => ([], [])
  | c :: s =>
      if c = '\n' then (['\n'], s)
      else
        let (line, rest) := takeLine s
        (c :: line, rest)

/-- `stream_line_reader::getline`: the line and the connection after it. Without a
newline the rest of the text is a line, if there is some and its end is met. -/
def getline (strm : Stream) : Option (Text × Stream) :=
  let (line, rest) := takeLine strm.input
  if line.getLast? = some '\n' then some (line, { strm with input := rest })
  else if line.isEmpty ∨ strm.failing then none
  else some (line, { strm with input := rest })

/-- `Stream::read` of at most `n` bytes: what the system has at hand, which
`recvSize` tells for each length of what is still to come; nothing at the end. -/
def recv (recvSize : Nat → Nat) (strm : Stream) (n : Nat) : Option (Text × Stream) :=
  if strm.input.isEmpty then none
  else
    let k := max 1 (min n (recvSize strm.input.length))
    some (strm.input.take k, { strm with input := strm.input.drop k })

/-- `detail::skip_content_with_length` -/
def skip (strm : Stream) (n : Nat) : Stream := { strm with input := strm.input.drop n }

/-! ## Lines -/

theorem takeLine_append {l : Text} (h : '\n' ∉ l) (rest : Text) :
    takeLine (l ++ '\n' :: rest) = (l ++ ['\n'], rest) := by
  induction l with
  | nil => rfl
  | cons c l ih =>
      rw [List.mem_cons, not_or] at h
      rw [List.cons_append, takeLine, if_neg (Ne.symm h.1), ih h.2]
      rfl

theorem append_takeLine (s : Text) : (takeLine s).1 ++ (takeLine s).2 = s := by
  induction s with
  | nil => rfl
  | cons c s ih =>
      rw [takeLine]
      split
      · next hc => rw [hc]; rfl
      · exact congrArg (c :: ·) ih

theorem getline_append {l : Text} (h : '\n' ∉ l) (rest : Text) (failing : Bool) :
    getline ⟨l ++ '\n' :: rest, failing⟩ = some (l ++ ['\n'], ⟨rest, failing⟩) := by
  simp [getline, takeLine_append h]

/-- The line is what is read, and it is not empty. -/
theorem getline_spec {strm strm' : Stream} {line : Text} (h : strm.getline = some (line, strm')) :
    strm.input = line ++ strm'.input ∧ strm'.failing = strm.failing ∧ line ≠ [] := by
  have hsplit := append_takeLine strm.input
  unfold getline at h
  rcases htake : takeLine strm.input with ⟨l, rest⟩
  rw [htake] at hsplit
  simp only [htake] at h
  split at h
  · next hlast =>
      cases h
      refine ⟨hsplit.symm, rfl, ?_⟩
      intro hnil
      rw [hnil] at hlast
      cases hlast
  · split at h
    · cases h
    · next hne =>
        cases h
        refine ⟨hsplit.symm, rfl, fun hnil => hne ?_⟩
        left
        rw [hnil]
        rfl

/-- What is read is a part of what there is, and not more than was asked for. -/
theorem recv_spec {recvSize : Nat → Nat} {strm strm' : Stream} {n : Nat} {buf : Text}
    (h : strm.recv recvSize n = some (buf, strm')) (hn : 0 < n) :
    strm.input = buf ++ strm'.input ∧ strm'.failing = strm.failing ∧ 0 < buf.length ∧
      buf.length ≤ n := by
  unfold recv at h
  split at h
  · cases h
  · next hne =>
      cases h
      have hpos : 0 < strm.input.length := List.length_pos_of_ne_nil (by simpa using hne)
      refine ⟨(List.take_append_drop _ _).symm, rfl, ?_, ?_⟩
      · rw [List.length_take]
        omega
      · rw [List.length_take]
        omega

theorem recv_eq_none {recvSize : Nat → Nat} {strm : Stream} {n : Nat} :
    strm.recv recvSize n = none ↔ strm.input = [] := by
  simp [recv]

end Stream

end HelpCovid.Http
