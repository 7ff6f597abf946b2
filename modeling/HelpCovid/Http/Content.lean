import HelpCovid.Http.Headers
import HelpCovid.Lib.Decimal

/-!
# The content of a request

`detail::read_content` reads what follows the headers: chunks, when the request is
chunked; else as many bytes as the length says; else all that comes until the peer
closes. A length over the limit is skipped and refused. However a client cuts its
content into chunks, and with whatever extensions on their size lines, the bytes
that are received are those of the content, and the reader stops at its end
(`readContent_append`).

Between two chunks a line that is not empty ends the content with success, as the
code has it.
-/

namespace HelpCovid.Http

open CText Web

/-! ## Numbers -/

/-- `strtoull(s, nullptr, 10)` -/
def strtoull (s : Text) : BitVec 64 :=
  let (negative, s) := scanSign (blanks s)
  clipUnsigned negative (decimalNumber (s.takeWhile Char.isDigit))

/-- `strtoul(line, &end_ptr, 16)`, where it read something. -/
def strtoulHex (line : Text) : Option (BitVec 64) := (scanHex (cstr line)).map Prod.fst

/-! ## Reading -/

/-- `CPPHTTPLIB_RECV_BUFSIZ` -/
def recvBufsiz : Nat := 4096

/-- What a reader of content leaves: whether it succeeded, what the receiver made of
the content, and the connection. -/
structure Received (σ : Type) where
  ok : Bool
  data : σ
  strm : Stream
deriving Repr, DecidableEq

section Receiver

-- how content arrives, and what it is given to: a receiver returns whether the reader
-- is to go on, or does not return
variable (recvSize : Nat → Nat) {σ : Type} (out : σ → Text → Option (Bool × σ))

/-- The loop of `detail::read_content_with_length`, with so much left to be read;
one buffer for each unit of fuel. -/
def receiveLength : (fuel left : Nat) → Stream → σ → Option (Received σ)
  | 0, left, strm, s => some ⟨left == 0, s, strm⟩
  | fuel + 1, left, strm, s =>
      if left = 0 then some ⟨true, s, strm⟩
      else
        match strm.recv recvSize (min left recvBufsiz) with
        | none => some ⟨false, s, strm⟩
        | some (buf, strm) => do
            let (ok, s) ← out s buf
            if ok then receiveLength fuel (left - buf.length) strm s else some ⟨false, s, strm⟩

/-- `detail::read_content_with_length` -/
def readContentWithLength (strm : Stream) (len : Nat) (s : σ) : Option (Received σ) :=
  receiveLength recvSize out len len strm s

/-- The loop of `detail::read_content_without_length`. -/
def receiveAll : (fuel : Nat) → Stream → σ → Option (Received σ)
  | 0, strm, s => some ⟨!strm.failing, s, strm⟩
  | fuel + 1, strm, s =>
      match strm.recv recvSize recvBufsiz with
      | none => some ⟨!strm.failing, s, strm⟩
      | some (buf, strm) => do
          let (ok, s) ← out s buf
          if ok then receiveAll fuel strm s else some ⟨false, s, strm⟩

/-- `detail::read_content_without_length` -/
def readContentWithoutLength (strm : Stream) (s : σ) : Option (Received σ) :=
  receiveAll recvSize out strm.input.length strm s

/-- The loop of `detail::read_content_chunked` once it has a size line; one chunk
for each unit of fuel. -/
def readChunks : (fuel : Nat) → (line : Text) → Stream → σ → Option (Received σ)
  | 0, _, strm, s => some ⟨false, s, strm⟩
  | fuel + 1, line, strm, s =>
      match strtoulHex line with
      | none => some ⟨false, s, strm⟩
      | some len =>
          if len = BitVec.allOnes 64 then some ⟨false, s, strm⟩
          else if len = 0 then
            match strm.getline with
            | none => some ⟨false, s, strm.drained⟩
            | some (line, strm) => some ⟨cstr line == crlf, s, strm⟩
          else do
            let chunk ← readContentWithLength recvSize out strm len.toNat s
            if !chunk.ok then some chunk
            else
              match chunk.strm.getline with
              | none => some ⟨false, chunk.data, chunk.strm.drained⟩
              | some (line, strm) =>
                  -- the loop is left, and not with an error
                  if cstr line ≠ crlf then some ⟨true, chunk.data, strm⟩
                  else
                    match strm.getline with
                    | none => some ⟨false, chunk.data, strm.drained⟩
                    | some (line, strm) => readChunks fuel line strm chunk.data

/-- `detail::read_content_chunked` -/
def readContentChunked (strm : Stream) (s : σ) : Option (Received σ) :=
  match strm.getline with
  | none => some ⟨false, s, strm.drained⟩
  | some (line, strm) => readChunks recvSize out (strm.input.length + 1) line strm s

/-- `get_header_value(key)`, a C string: the empty one for none. -/
def getHeaderValue (headers : Headers) (key : Text) : Text :=
  cstr ((findHeader key headers).getD [])

/-- `detail::is_chunked_transfer_encoding`, with `strcasecmp`. -/
def isChunkedTransferEncoding (headers : Headers) : Bool :=
  (getHeaderValue headers "Transfer-Encoding".toList).map Char.toLower == "chunked".toList

/-- The status that is set when content could not be read. -/
def badContent (received : Received σ) : Received σ × Option Int :=
  (received, if received.ok then none else some 400)

/-- `detail::read_content`: what was received, and the status that is set when that
failed. Compressed content is not supported. -/
def readContent (payloadMaxLength : Nat) (headers : Headers) (strm : Stream) (s : σ) :
    Option (Received σ × Option Int) :=
  if getHeaderValue headers "Content-Encoding".toList = "gzip".toList then
    some (⟨false, s, strm⟩, some 415)
  else if isChunkedTransferEncoding headers then
    (readContentChunked recvSize out strm s).map badContent
  else
    match findHeader "Content-Length".toList headers with
    | none => (readContentWithoutLength recvSize out strm s).map badContent
    | some value =>
        let len := (strtoull (cstr value)).toNat
        if payloadMaxLength < len then some (⟨false, s, strm.skip len⟩, some 413)
        else (readContentWithLength recvSize out strm len s).map badContent

end Receiver

/-- The receiver of a plain request: the bytes are appended to its body. -/
def appendBody (body buf : Text) : Option (Bool × Text) := some (true, body ++ buf)

/-! ## Receivers -/

section Takes

variable {σ : Type} {out : σ → Text → Option (Bool × σ)} (Inside : σ → Text → Prop) (lost : Prop)

/-- A receiver that has a relation with what is still to come takes the next bytes and
keeps the relation; it does not return only where it may be lost. -/
def Takes (out : σ → Text → Option (Bool × σ)) : Prop :=
  ∀ s buf rest, buf ≠ [] → Inside s (buf ++ rest) →
    (lost ∧ out s buf = none) ∨ ∃ s', out s buf = some (true, s') ∧ Inside s' rest

/-- What a reader of content comes to: the receiver has taken all up to some place of the
connection, or is lost. -/
def Taken (rest : Text) (strm : Stream) (result : Option (Received σ)) : Prop :=
  (lost ∧ result = none) ∨ ∃ s, result = some ⟨true, s, strm⟩ ∧ Inside s rest

variable {Inside lost}

/-- It does not matter how the bytes arrive. -/
theorem receiveLength_takes (h : Takes Inside lost out) (recvSize : Nat → Nat) {data : Text} {fuel : Nat}
    (hfuel : data.length ≤ fuel) (more rest : Text) (failing : Bool) {s : σ}
    (hs : Inside s (data ++ more)) :
    Taken Inside lost more ⟨rest, failing⟩
      (receiveLength recvSize out fuel data.length ⟨data ++ rest, failing⟩ s) := by
  induction fuel generalizing data s with
  | zero =>
      obtain rfl : data = [] := List.eq_nil_of_length_eq_zero (Nat.le_zero.mp hfuel)
      exact Or.inr ⟨s, by simp [receiveLength], hs⟩
  | succ fuel ih =>
      by_cases hne : data = []
      · subst hne
        exact Or.inr ⟨s, by simp [receiveLength], hs⟩
      · have hpos := List.length_pos_of_ne_nil hne
        have hmin : 0 < min data.length recvBufsiz := by
          rw [recvBufsiz]
          omega
        rw [receiveLength, if_neg (by omega)]
        cases hrecv : Stream.recv recvSize ⟨data ++ rest, failing⟩ (min data.length recvBufsiz) with
        | none =>
            rw [Stream.recv_eq_none] at hrecv
            exact absurd (List.append_eq_nil_iff.mp hrecv).1 hne
        | some found =>
            rcases found with ⟨buf, strm⟩
            rcases Stream.recv_spec hrecv hmin with ⟨hsplit, hfailing, hbuf, hle⟩
            -- the buffer is a part of the data
            have hprefix : buf <+: data :=
              List.prefix_of_prefix_length_le ⟨strm.input, hsplit.symm⟩ (List.prefix_append data rest)
                (hle.trans (Nat.min_le_left _ _))
            rcases hprefix with ⟨left, rfl⟩
            have hstrm : strm = ⟨left ++ rest, failing⟩ := by
              rw [List.append_assoc] at hsplit
              have hinput := List.append_cancel_left hsplit
              cases strm
              simp only at hinput hfailing
              rw [← hinput, hfailing]
            have hleft : (buf ++ left).length - buf.length = left.length := by simp
            have hfuel' : left.length ≤ fuel := by
              rw [List.length_append] at hfuel
              omega
            rw [List.append_assoc] at hs
            rcases h s buf (left ++ more) (List.ne_nil_of_length_pos hbuf) hs with
              ⟨hlost, hnone⟩ | ⟨s', hsome, hs'⟩
            · exact Or.inl ⟨hlost, by simp only [hnone]; rfl⟩
            · simp only [hsome, Option.bind_eq_bind, Option.bind_some, if_true, hleft, hstrm]
              exact ih hfuel' hs'

end Takes

/-! ## Chunks -/

/-- The size line of a chunk, without its end: digits and perhaps an extension. -/
structure IsSizeLine (size : Nat) (line : Text) : Prop where
  split : ∃ digits ext, line = digits ++ ext ∧ digits ≠ [] ∧
    (∀ c ∈ digits, isHexDigit c = true) ∧ hexNumber digits = size ∧
    ∀ c ∈ ext.head?, c = ';' ∨ c = ' '
  plain : '\n' ∉ line

/-- A client's way to write content in chunks: each has its size line, and a last one
of size zero follows. -/
inductive Chunked : Text → Text → Prop
  | last {line : Text} (hline : IsSizeLine 0 line) : Chunked [] (line ++ crlf ++ crlf)
  | chunk {line data rest text : Text} (hline : IsSizeLine data.length line) (hne : data ≠ [])
      (hsize : data.length < 2 ^ 64 - 1) (hrest : Chunked rest text) :
      Chunked (data ++ rest) (line ++ crlf ++ (data ++ crlf ++ text))

theorem strtoulHex_sizeLine {size : Nat} {line : Text} (h : IsSizeLine size line)
    (hsize : size < 2 ^ 64) : strtoulHex (line ++ crlf) = some (BitVec.ofNat 64 size) := by
  rcases h.split with ⟨digits, ext, rfl, hne, hdigits, hnumber, hext⟩
  have hplain : '\x00' ∉ digits := by
    intro hmem
    exact absurd (hdigits _ hmem) (by decide)
  -- what follows the digits is no digit, also where the string is cut
  have hrest : ∀ c ∈ (cstr (ext ++ crlf)).head?, isHexDigit c = false ∧ c ≠ 'x' ∧ c ≠ 'X' := by
    intro c hc
    cases ext with
    | nil =>
        have hc : c = '\r' := by simpa [crlf, cstr] using hc.symm
        rw [hc]
        decide
    | cons e ext =>
        have he := hext e rfl
        have hc : c = e := by
          rcases he with rfl | rfl <;> simpa [cstr] using hc.symm
        rcases he with he | he <;> rw [hc, he] <;> decide
  rw [strtoulHex, List.append_assoc, cstr_append hplain,
    scanHex_digits hne hdigits hrest (hnumber ▸ hsize), hnumber]
  rfl

theorem getline_empty (rest : Text) (failing : Bool) :
    Stream.getline ⟨crlf ++ rest, failing⟩ = some (crlf, ⟨rest, failing⟩) :=
  @getline_crlf [] List.not_mem_nil rest failing

theorem cstr_crlf : cstr crlf = crlf := by decide

section Takes

variable {σ : Type} {out : σ → Text → Option (Bool × σ)} {Inside : σ → Text → Prop}
  {lost : Prop}

/-- Chunks are read to the end of the last one. -/
theorem readChunks_takes (h : Takes Inside lost out) (recvSize : Nat → Nat) {content text : Text}
    (hchunked : Chunked content text) (more rest : Text) (failing : Bool) :
    ∃ line tail, text = line ++ tail ∧
      Stream.getline ⟨text ++ rest, failing⟩ = some (line, ⟨tail ++ rest, failing⟩) ∧
      ∀ fuel s, tail.length < fuel → Inside s (content ++ more) →
        Taken Inside lost more ⟨rest, failing⟩
          (readChunks recvSize out fuel line ⟨tail ++ rest, failing⟩ s) := by
  induction hchunked with
  | @last line hline =>
      refine ⟨line ++ crlf, crlf, rfl, ?_, ?_⟩
      · rw [List.append_assoc]
        exact getline_crlf hline.plain _ _
      · intro fuel s hfuel hs
        rcases fuel with - | fuel
        · exact absurd hfuel (Nat.not_lt_zero _)
        · refine Or.inr ⟨s, ?_, hs⟩
          rw [readChunks, strtoulHex_sizeLine hline (by decide)]
          simp only [BitVec.ofNat_eq_ofNat, if_true, getline_empty, cstr_crlf, beq_self_eq_true]
          rw [if_neg (by decide)]
  | @chunk line data content text hline hne hsize _ ih =>
      rcases ih with ⟨next, tail, rfl, hnext, hread⟩
      refine ⟨line ++ crlf, data ++ crlf ++ (next ++ tail), rfl, ?_, ?_⟩
      · rw [List.append_assoc]
        exact getline_crlf hline.plain _ _
      · intro fuel s hfuel hs
        rcases fuel with - | fuel
        · exact absurd hfuel (Nat.not_lt_zero _)
        · have hlen : (BitVec.ofNat 64 data.length).toNat = data.length := by
            rw [BitVec.toNat_ofNat, Nat.mod_eq_of_lt (by omega)]
          have hpos := List.length_pos_of_ne_nil hne
          have hall : BitVec.ofNat 64 data.length ≠ BitVec.allOnes 64 := by
            intro heq
            have hnat := congrArg BitVec.toNat heq
            rw [hlen, BitVec.toNat_allOnes] at hnat
            omega
          have hzero : BitVec.ofNat 64 data.length ≠ 0 := by
            intro heq
            have hnat : data.length = 0 := hlen.symm.trans (congrArg BitVec.toNat heq)
            omega
          have hinput : data ++ crlf ++ (next ++ tail) ++ rest =
              data ++ (crlf ++ (next ++ tail ++ rest)) := by
            simp only [List.append_assoc]
          rw [List.append_assoc] at hs
          have hchunk := receiveLength_takes h recvSize (Nat.le_refl _) (content ++ more)
            (crlf ++ (next ++ tail ++ rest)) failing hs
          rw [readChunks, strtoulHex_sizeLine hline (by omega), hinput]
          simp only [if_neg hall, if_neg hzero, hlen, readContentWithLength]
          rcases hchunk with ⟨hlost, hnone⟩ | ⟨s', hsome, hs'⟩
          · exact Or.inl ⟨hlost, by rw [hnone]; rfl⟩
          · simp only [hsome, Option.bind_eq_bind, Option.bind_some, Bool.not_true,
              Bool.false_eq_true, if_false, getline_empty, cstr_crlf, ne_eq, not_true, hnext]
            refine hread fuel s' ?_ hs'
            rw [List.length_append, List.length_append, List.length_append] at hfuel
            omega

theorem readContentChunked_takes (h : Takes Inside lost out) (recvSize : Nat → Nat)
    {content text : Text} (hchunked : Chunked content text) (more rest : Text) (failing : Bool)
    {s : σ} (hs : Inside s (content ++ more)) :
    Taken Inside lost more ⟨rest, failing⟩
      (readContentChunked recvSize out ⟨text ++ rest, failing⟩ s) := by
  rcases readChunks_takes h recvSize hchunked more rest failing with ⟨line, tail, -, hline, hread⟩
  rw [readContentChunked, hline]
  refine hread _ s ?_ hs
  rw [List.length_append]
  omega

end Takes

/-! ## Framing -/

/-- How content is framed: by a length within the limit, or in chunks. -/
inductive Framed (payloadMaxLength : Nat) (headers : Headers) : Text → Text → Prop
  | length {digits body : Text} (hchunked : isChunkedTransferEncoding headers = false)
      (hfield : findHeader "Content-Length".toList headers = some digits) (hne : digits ≠ [])
      (hdigits : ∀ c ∈ digits, c.isDigit = true) (hlength : decimalNumber digits = body.length)
      (hmax : body.length ≤ payloadMaxLength) : Framed payloadMaxLength headers body body
  | chunked {body text : Text} (hchunked : isChunkedTransferEncoding headers = true)
      (htext : Chunked body text) : Framed payloadMaxLength headers body text

theorem strtoull_digits {digits : Text} (hne : digits ≠ [])
    (hdigits : ∀ c ∈ digits, c.isDigit = true) (hsize : decimalNumber digits < 2 ^ 64) :
    (strtoull (cstr digits)).toNat = decimalNumber digits := by
  have hplain : '\x00' ∉ digits := by
    intro hmem
    exact absurd (hdigits _ hmem) (by decide)
  have hsign : scanSign (blanks digits) = (false, digits) := by
    rcases List.exists_cons_of_ne_nil hne with ⟨d, ds, rfl⟩
    exact scanSign_blanks_of_digit (hdigits d List.mem_cons_self) ds
  have htake : digits.takeWhile Char.isDigit = digits := List.takeWhile_eq_self_iff.mpr hdigits
  rw [cstr_of_notMem hplain, strtoull, hsign]
  simp only [htake]
  rw [clipUnsigned, if_neg (by omega), if_neg (by decide), BitVec.toNat_ofNat,
    Nat.mod_eq_of_lt hsize]

/-- A receiver takes the whole content, however it is framed, or is lost. -/
theorem readContent_takes {σ : Type} {out : σ → Text → Option (Bool × σ)}
    {Inside : σ → Text → Prop} {lost : Prop} (h : Takes Inside lost out) (recvSize : Nat → Nat)
    {payloadMaxLength : Nat} (hsize : payloadMaxLength < 2 ^ 64) {headers : Headers}
    {content text : Text}
    (hencoding : getHeaderValue headers "Content-Encoding".toList ≠ "gzip".toList)
    (hframed : Framed payloadMaxLength headers content text) (more rest : Text) (failing : Bool)
    {s : σ} (hs : Inside s (content ++ more)) :
    (lost ∧ readContent recvSize out payloadMaxLength headers ⟨text ++ rest, failing⟩ s = none) ∨
      ∃ s', readContent recvSize out payloadMaxLength headers ⟨text ++ rest, failing⟩ s =
        some (⟨true, s', ⟨rest, failing⟩⟩, none) ∧ Inside s' more := by
  have hbad : ∀ {result : Option (Received σ)}, Taken Inside lost more ⟨rest, failing⟩ result →
      (lost ∧ result.map badContent = none) ∨ ∃ s', result.map badContent =
        some (⟨true, s', ⟨rest, failing⟩⟩, none) ∧ Inside s' more := by
    rintro result (⟨hlost, rfl⟩ | ⟨s', rfl, hs'⟩)
    · exact Or.inl ⟨hlost, rfl⟩
    · exact Or.inr ⟨s', rfl, hs'⟩
  rw [readContent, if_neg hencoding]
  cases hframed with
  | @length digits _ hchunked hfield hne hdigits hlength hmax =>
      rw [hchunked, if_neg Bool.false_ne_true, hfield]
      simp only [strtoull_digits hne hdigits (hlength ▸ Nat.lt_of_le_of_lt hmax hsize), hlength,
        if_neg (Nat.not_lt.mpr hmax)]
      exact hbad (receiveLength_takes h recvSize (Nat.le_refl _) more rest failing hs)
  | chunked hchunked htext =>
      rw [hchunked, if_pos rfl]
      exact hbad (readContentChunked_takes h recvSize htext more rest failing hs)

/-- The content is received as it was, however it arrives, and what follows it is
left. -/
theorem readContent_append (recvSize : Nat → Nat) {payloadMaxLength : Nat}
    (hsize : payloadMaxLength < 2 ^ 64) {headers : Headers} {content text : Text}
    (hencoding : getHeaderValue headers "Content-Encoding".toList ≠ "gzip".toList)
    (h : Framed payloadMaxLength headers content text) (rest : Text) (failing : Bool) :
    readContent recvSize appendBody payloadMaxLength headers ⟨text ++ rest, failing⟩ [] =
      some (⟨true, content, ⟨rest, failing⟩⟩, none) := by
  have htakes : Takes (fun body left => body ++ left = content) False appendBody := by
    intro body buf left _ hbody
    exact Or.inr ⟨body ++ buf, rfl, (List.append_assoc _ _ _).trans hbody⟩
  rcases readContent_takes htakes recvSize hsize hencoding h [] rest failing
    (show [] ++ (content ++ []) = content by simp) with ⟨hlost, -⟩ | ⟨body, hsome, hbody⟩
  · exact hlost.elim
  · rw [hsome, ← hbody, List.append_nil]

end HelpCovid.Http
