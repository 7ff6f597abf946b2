import HelpCovid.Http.Content
import HelpCovid.Lib.Loop

/-!
# Multipart forms

`MultipartFormDataParser` is given the content of a form as it arrives, buffer by
buffer, and goes through it in a loop that ends when it has used up what it has or
needs more. In the headers of a part it needs more without saying so: what is left
there without the end of a line sends the loop round for ever
(`parse_eq_none_iff`).

A form that arrives in one buffer is read part by part (`parse_multipartText`). Within a part
all of a buffer is passed on as content in which no separator starts, also the first
byte of one: a form whose last separator comes in two buffers is refused
(`parse_split_form`).

The functions that the server gives the parser always succeed, and are left out.
-/

namespace HelpCovid.Http

open CText Loop

/-! ## Header lines -/

/-- Literal text of an expression that does not look at the case of letters. -/
def literalIcase (p s : Text) : Option Text :=
  if (s.take p.length).map Char.toLower = p.map Char.toLower then some (s.drop p.length) else none

/-- `\s*(.*?)\s*$` -/
def matchTrimmed (s : Text) : Option Text :=
  let group := (s.dropWhile isSpace).rdropWhile isSpace
  if group.all isDot then some group else none

/-- `(.*?)"` and the rest of an expression: the shortest text that the rest goes on from. -/
def matchQuoted {β : Type} (rest : Text → Option β) : Text → Option (Text × β)
  | [] => none
  | c :: s =>
      match if c = '"' then rest s else none with
      | some b => some ([], b)
      | none => if isDot c then (matchQuoted rest s).map fun (t, b) => (c :: t, b) else none

/-- `\s*$` -/
def matchSpaces (s : Text) : Option Unit := if s.all isSpace then some () else none

/-- `(?:;\s*filename="(.*?)")?\s*$`: the name of a file, empty for none. -/
def matchFilename (s : Text) : Option Text :=
  let named := do
    let s ← literal [';'] s
    let s ← literalIcase "filename=\"".toList (blanks s)
    let (filename, _) ← matchQuoted matchSpaces s
    return filename
  named.or ((matchSpaces s).map fun _ => [])

/-- `re_content_type` -/
def matchContentType (header : Text) : Option Text :=
  (literalIcase "Content-Type:".toList header).bind matchTrimmed

/-- `re_content_disposition`: the name of the field and of the file. -/
def matchContentDisposition (header : Text) : Option (Text × Text) := do
  let s ← literalIcase "Content-Disposition:".toList header
  let s ← literalIcase "form-data;".toList (blanks s)
  let s ← literalIcase "name=\"".toList (blanks s)
  matchQuoted matchFilename s

/-! ## The parser -/

/-- What `clear_file_info` leaves. -/
def MultipartFormData.empty : MultipartFormData := ⟨[], [], [], []⟩

/-- `state_` -/
inductive ParserState where
  | initialBoundary
  | newEntry
  | headers
  | body
  | boundary
  | done
deriving Repr, DecidableEq

/-- `MultipartFormDataParser`, with the files that it has put into the request, in this
order. -/
structure Parser where
  boundary : Text
  buf : Text
  state : ParserState
  isValid : Bool
  file : MultipartFormData
  files : List MultipartFormData
deriving Repr, DecidableEq

namespace Parser

/-- The parser with a boundary set. -/
def init (boundary : Text) : Parser := ⟨boundary, [], .initialBoundary, false, .empty, []⟩

/-- `buf_.erase(0, n)` -/
def erase (p : Parser) (n : Nat) : Parser := { p with buf := p.buf.drop n }

/-- The first bytes of the buffer are content of the file that came last. -/
def content (p : Parser) (n : Nat) : Parser :=
  { p with
    files := p.files.dropLast ++ p.files.getLast?.toList.map fun file =>
      { file with content := file.content ++ p.buf.take n } }

end Parser

/-- A header line of a part. -/
def fileHeader (file : MultipartFormData) (header : Text) : MultipartFormData :=
  match matchContentType header with
  | some contentType => { file with contentType := contentType }
  | none =>
      match matchContentDisposition header with
      | some (name, filename) => { file with name := name, filename := filename }
      | none => file

def dash : Text := ['-', '-']

/-- One round of the loop of `parse`: on with it, or what it returns. A header line
takes a round of its own. -/
def parseRound (p : Parser) : Round Parser (Bool × Parser) :=
  if p.buf.isEmpty then .result (true, p)
  else match p.state with
    | .initialBoundary =>
        let pattern := dash ++ p.boundary ++ crlf
        if p.buf.length < pattern.length then .result (true, p)
        else if strstr pattern p.buf ≠ some 0 then .result (false, p)
        else .next { p.erase pattern.length with state := .newEntry }
    | .newEntry => .next { p with file := .empty, state := .headers }
    | .headers =>
        match strstr crlf p.buf with
        -- the inner loop is not entered, the outer one is not left
        | none => .next p
        | some 0 =>
            .next { p.erase crlf.length with files := p.files ++ [p.file], state := .body }
        | some pos =>
            .next { p.erase (pos + crlf.length) with file := fileHeader p.file (p.buf.take pos) }
    | .body =>
        if p.buf.length < (crlf ++ dash).length then .result (true, p)
        else
          let pos := (strstr (crlf ++ dash) p.buf).getD p.buf.length
          let p := (p.content pos).erase pos
          let pattern := crlf ++ dash ++ p.boundary
          if p.buf.length < pattern.length then .result (true, p)
          else match strstr pattern p.buf with
            | some pos =>
                .next { (p.content pos).erase (pos + pattern.length) with state := .boundary }
            | none => .next ((p.content pattern.length).erase pattern.length)
    | .boundary =>
        if p.buf.length < crlf.length then .result (true, p)
        else if strstr crlf p.buf = some 0 then
          .next { p.erase crlf.length with state := .newEntry }
        else
          let pattern := dash ++ crlf
          if p.buf.length < pattern.length then .result (true, p)
          else if strstr pattern p.buf = some 0 then
            .next { p.erase pattern.length with isValid := true, state := .done }
          else .result (true, p)
    | .done => .result (false, { p with isValid := false })

/-- What is left to be done, but for the rounds that a stuck parser makes. -/
def Parser.work (p : Parser) : Nat := 2 * p.buf.length + if p.state = .newEntry then 1 else 0

/-- `MultipartFormDataParser::parse`; `none` when it does not return. -/
def parse (p : Parser) (data : Text) : Option (Bool × Parser) :=
  let p := { p with buf := p.buf ++ data }
  run parseRound (p.work + 1) p

/-- In the headers, with the start of a line only. -/
def Parser.Stuck (p : Parser) : Prop :=
  p.state = .headers ∧ p.buf ≠ [] ∧ strstr crlf p.buf = none

/-! ## Does it return? -/

theorem parseRound_of_stuck (p : Parser) (h : p.Stuck) : parseRound p = .next p := by
  rcases h with ⟨hstate, hne, hnone⟩
  rw [parseRound, if_neg (by simpa using hne)]
  simp only [hstate, hnone]

/-- A round that uses something up and does not start an entry does some of the work. -/
theorem work_lt {p q : Parser} {n : Nat} (hbuf : q.buf = p.buf.drop n) (hn : 0 < n)
    (hle : n ≤ p.buf.length) : q.work < p.work := by
  have hlength := congrArg List.length hbuf
  rw [List.length_drop] at hlength
  unfold Parser.work
  split <;> omega

theorem parseRound_work (p p' : Parser) (hstuck : ¬ p.Stuck) (h : parseRound p = .next p') :
    p'.work < p.work := by
  rw [parseRound] at h
  split at h
  · cases h
  next hne =>
  have hne : p.buf ≠ [] := by simpa using hne
  cases hstate : p.state with
  | initialBoundary =>
      simp only [hstate] at h
      split at h
      · cases h
      next hlength =>
      split at h
      · cases h
      cases h
      refine work_lt rfl ?_ (Nat.le_of_not_lt hlength)
      simp [dash]
  | newEntry =>
      simp only [hstate] at h
      cases h
      simp [Parser.work, hstate]
  | headers =>
      simp only [hstate] at h
      cases hpos : strstr crlf p.buf with
      | none => exact absurd ⟨hstate, hne, hpos⟩ hstuck
      | some pos =>
          have hle : pos + crlf.length ≤ p.buf.length := strstr_le_length hpos (by decide)
          rw [hpos] at h
          rcases pos with - | pos
          · cases h
            refine work_lt rfl (by decide) ?_
            simpa using hle
          · cases h
            exact work_lt rfl (Nat.add_pos_left (Nat.succ_pos pos) _) hle
  | body =>
      simp only [hstate] at h
      split at h
      · cases h
      split at h
      · cases h
      next hlength =>
      have hpattern : 0 < (crlf ++ dash ++ p.boundary).length := by simp [crlf]
      have hdrop : ∀ n k, (p.buf.drop n).drop k = p.buf.drop (n + k) := fun n k => List.drop_drop
      simp only [Parser.content, Parser.erase, List.length_drop] at h hlength
      cases hfound : strstr (crlf ++ dash ++ p.boundary)
          (p.buf.drop ((strstr (crlf ++ dash) p.buf).getD p.buf.length)) with
      | none =>
          simp only [hfound] at h
          cases h
          refine work_lt (hdrop _ _) (Nat.add_pos_right _ hpattern) ?_
          omega
      | some pos =>
          have hle := strstr_le_length hfound (List.ne_nil_of_length_pos hpattern)
          rw [List.length_drop] at hle
          simp only [hfound] at h
          cases h
          refine work_lt (hdrop _ _) (Nat.add_pos_right _ (Nat.add_pos_right _ hpattern)) ?_
          omega
  | boundary =>
      simp only [hstate] at h
      split at h
      · cases h
      next hlength =>
      split at h
      · cases h
        exact work_lt rfl (by decide) (Nat.le_of_not_lt hlength)
      split at h
      · cases h
      next hlength' =>
      split at h
      · cases h
        exact work_lt rfl (by decide) (Nat.le_of_not_lt hlength')
      · cases h
  | done =>
      simp only [hstate] at h
      cases h

/-- The parser does not return on a buffer exactly when it comes to the start of a
header line that has no end. -/
theorem parse_eq_none_iff (p : Parser) (data : Text) :
    parse p data = none ↔
      ∃ q, Leads parseRound { p with buf := p.buf ++ data } q ∧ q.Stuck := by
  rw [parse, ← diverges_iff_run parseRound_of_stuck parseRound_work (Nat.lt_succ_self _)]
  exact diverges_iff parseRound_of_stuck parseRound_work _

/-! ## Through the headers of a part -/

/-- The line that starts a part, or the form. -/
def boundaryLine (boundary : Text) : Text := dash ++ boundary ++ crlf

theorem strstr_crlf_append {l : Text} (h : '\n' ∉ l) (rest : Text) :
    strstr crlf (l ++ crlf ++ rest) = some l.length := by
  have hline : strstr crlf (l ++ crlf) = some l.length := by
    induction l with
    | nil => decide
    | cons c l ih =>
        rw [List.mem_cons, not_or] at h
        have hstart : ¬ crlf <+: c :: (l ++ crlf) := by
          intro hprefix
          have hsecond := (List.cons_prefix_cons.mp hprefix).2
          -- the newline would be the first character of the rest
          cases l with
          | nil => exact absurd (List.cons_prefix_cons.mp hsecond).1 (by decide)
          | cons d l =>
              have hd := (List.cons_prefix_cons.mp hsecond).1
              exact h.2 (hd ▸ List.mem_cons_self)
        rw [List.cons_append, strstr_cons_of_not_start hstart, ih h.2]
        rfl
  exact strstr_append hline rest (by decide)

theorem parseRound_headerLine {p : Parser} (hstate : p.state = .headers) {pos : Nat}
    (hpos : strstr crlf p.buf = some pos) (hne : 0 < pos) :
    parseRound p =
      .next { p.erase (pos + crlf.length) with file := fileHeader p.file (p.buf.take pos) } := by
  have hbuf : ¬ p.buf.isEmpty = true := by
    intro hempty
    rw [List.isEmpty_iff.mp hempty] at hpos
    cases hpos
  rw [parseRound, if_neg hbuf]
  simp only [hstate, hpos]
  rcases pos with - | pos
  · exact absurd hne (Nat.lt_irrefl 0)
  · rfl

/-- Header lines are read one by one. -/
theorem leads_headers {p : Parser} (hstate : p.state = .headers) {ls : List Text}
    (h : ∀ l ∈ ls, IsLine l) {rest : Text} (hbuf : p.buf = ls.flatMap (· ++ crlf) ++ rest) :
    Leads parseRound p { p with buf := rest, file := ls.foldl fileHeader p.file } := by
  induction ls generalizing p with
  | nil =>
      obtain rfl : p.buf = rest := hbuf
      exact .refl p
  | cons l ls ih =>
      rw [List.forall_mem_cons] at h
      have hline : p.buf = l ++ crlf ++ (ls.flatMap (· ++ crlf) ++ rest) := by
        rw [hbuf, List.flatMap_cons, List.append_assoc]
      have hpos : strstr crlf p.buf = some l.length := hline ▸ strstr_crlf_append h.1.2 _
      have hround : parseRound p =
          .next { p with
            buf := ls.flatMap (· ++ crlf) ++ rest, file := fileHeader p.file l } := by
        have hdrop : p.buf.drop (l.length + crlf.length) = ls.flatMap (· ++ crlf) ++ rest := by
          rw [hline, ← List.length_append, List.drop_left]
        have htake : p.buf.take l.length = l := by
          rw [hline, List.append_assoc, List.take_left]
        rw [parseRound_headerLine hstate hpos (List.length_pos_of_ne_nil h.1.1), Parser.erase,
          hdrop, htake]
      exact .next hround (ih hstate h.2 rfl)

theorem parseRound_newEntry {p : Parser} (hstate : p.state = .newEntry) (hne : p.buf ≠ []) :
    parseRound p = .next { p with file := .empty, state := .headers } := by
  rw [parseRound, if_neg (by simpa using hne)]
  simp only [hstate]

/-- The first boundary starts a part. -/
theorem parseRound_initialBoundary (boundary rest : Text) :
    parseRound { Parser.init boundary with buf := boundaryLine boundary ++ rest } =
      .next { Parser.init boundary with buf := rest, state := .newEntry } := by
  have hne : ¬ (boundaryLine boundary ++ rest).isEmpty = true := by simp [boundaryLine, dash]
  have hlength : ¬ (boundaryLine boundary ++ rest).length < (dash ++ boundary ++ crlf).length := by
    simp [boundaryLine]
  have hstart : strstr (dash ++ boundary ++ crlf) (boundaryLine boundary ++ rest) = some 0 :=
    strstr_of_start (List.prefix_append _ _)
  rw [parseRound, if_neg hne]
  simp only [Parser.init, if_neg hlength, hstart, Parser.erase]
  rw [if_neg (by simp)]
  simp [boundaryLine]

/-! ## Forms in one buffer -/

/-- A part of a form. -/
structure Part where
  headers : List Text
  content : Text
deriving Repr, DecidableEq

/-- What stands between two parts. -/
def separator (boundary : Text) : Text := crlf ++ dash ++ boundary

/-- A part that can be sent with a boundary, which its content does not have. -/
structure IsPart (boundary : Text) (part : Part) : Prop where
  lines : ∀ l ∈ part.headers, IsLine l
  content : strstr (separator boundary) (part.content ++ separator boundary) =
    some part.content.length

/-- A part with the separator after it. -/
def partText (boundary : Text) (part : Part) : Text :=
  block part.headers ++ (part.content ++ separator boundary)

/-- The content of a form. -/
def multipartText (boundary : Text) (parts : List Part) : Text :=
  dash ++ boundary ++ (parts.flatMap fun part => crlf ++ partText boundary part) ++ dash ++ crlf

/-- What is read of a part. -/
def Part.data (part : Part) : MultipartFormData :=
  { part.headers.foldl fileHeader .empty with content := part.content }

theorem parseRound_blankLine {p : Parser} (hstate : p.state = .headers) {rest : Text}
    (hbuf : p.buf = crlf ++ rest) :
    parseRound p = .next { p with buf := rest, files := p.files ++ [p.file], state := .body } := by
  have hpos : strstr crlf p.buf = some 0 := hbuf ▸ strstr_of_start (List.prefix_append _ _)
  have hne : ¬ p.buf.isEmpty = true := by simp [hbuf, crlf]
  have hdrop : p.buf.drop crlf.length = rest := by rw [hbuf, List.drop_left]
  rw [parseRound, if_neg hne]
  simp only [hstate, hpos, Parser.erase, hdrop]

/-- The content of a part is passed on up to its separator. -/
theorem parseRound_body {p : Parser} (hstate : p.state = .body) {files : List MultipartFormData}
    {file : MultipartFormData} (hfiles : p.files = files ++ [file]) {content rest : Text}
    (hbuf : p.buf = content ++ separator p.boundary ++ rest)
    (hcontent : strstr (separator p.boundary) (content ++ separator p.boundary) =
      some content.length) :
    parseRound p = .next { p with
      buf := rest
      files := files ++ [{ file with content := file.content ++ content }]
      state := .boundary } := by
  have hpattern : crlf ++ dash ++ p.boundary ≠ [] := by simp [crlf]
  have hfull : strstr (crlf ++ dash ++ p.boundary) p.buf = some content.length :=
    hbuf ▸ strstr_append hcontent rest hpattern
  have hlength := strstr_le_length hfull hpattern
  have hsplit : p.buf = content ++ ((crlf ++ dash) ++ (p.boundary ++ rest)) := by
    rw [hbuf, separator]
    simp only [List.append_assoc]
  -- a line break and dashes that do not start the separator belong to the content
  have hdashes : (strstr (crlf ++ dash) p.buf).isSome = true :=
    (strstr_isSome_iff (by decide)).mpr ⟨content, p.boundary ++ rest, by simp [hsplit]⟩
  rcases Option.isSome_iff_exists.mp hdashes with ⟨pos, hpos⟩
  have hle : pos ≤ content.length := strstr_le_of_append (hsplit ▸ hpos)
  have hleft : strstr (crlf ++ dash ++ p.boundary) (p.buf.drop pos) =
      some (content.length - pos) := strstr_drop hfull hle
  have hshort : ¬ p.buf.length < (crlf ++ dash).length := by
    rw [List.length_append] at hlength
    omega
  have hlong : ¬ (p.buf.drop pos).length < (crlf ++ dash ++ p.boundary).length := by
    rw [List.length_drop]
    omega
  have hne : ¬ p.buf.isEmpty = true := by
    intro hempty
    rw [List.isEmpty_iff.mp hempty] at hshort
    exact hshort (by decide)
  have hrest : p.buf.drop (pos + (content.length - pos + (crlf ++ dash ++ p.boundary).length)) =
      rest := by
    have hsum : pos + (content.length - pos + (crlf ++ dash ++ p.boundary).length) =
        (content ++ separator p.boundary).length := by
      simp only [separator, List.length_append]
      omega
    rw [hsum, hbuf, List.drop_left]
  have htake : p.buf.take pos ++ (p.buf.drop pos).take (content.length - pos) = content := by
    rw [← List.take_add, Nat.add_sub_cancel' hle, hbuf, List.append_assoc, List.take_left]
  rw [parseRound, if_neg hne]
  simp only [hstate, if_neg hshort, hpos, Option.getD_some, Parser.content, Parser.erase, hfiles,
    if_neg hlong, hleft, List.drop_drop, hrest]
  simp [htake]

theorem foldl_fileHeader_content (ls : List Text) (file : MultipartFormData) :
    (ls.foldl fileHeader file).content = file.content := by
  induction ls generalizing file with
  | nil => rfl
  | cons l ls ih =>
      rw [List.foldl_cons, ih]
      unfold fileHeader
      split
      · rfl
      · split <;> rfl

/-- The header lines of a part are read, and its content is next. -/
theorem leads_body {p : Parser} (hstate : p.state = .newEntry) {ls : List Text}
    (h : ∀ l ∈ ls, IsLine l) {rest : Text} (hbuf : p.buf = block ls ++ rest) :
    Leads parseRound p { p with
      buf := rest, state := .body, file := ls.foldl fileHeader .empty
      files := p.files ++ [ls.foldl fileHeader .empty] } := by
  have hlines : p.buf = ls.flatMap (· ++ crlf) ++ (crlf ++ rest) := by
    rw [hbuf, block, List.append_assoc]
  have hstart := parseRound_newEntry hstate (by simp [hlines, crlf])
  have hheaders := @leads_headers { p with file := .empty, state := .headers } rfl _ h _ hlines
  have hblank := @parseRound_blankLine
    { p with buf := crlf ++ rest, file := ls.foldl fileHeader .empty, state := .headers } rfl rest rfl
  exact .next hstart (hheaders.trans (.next hblank (.refl _)))

/-- A part is read with its separator. -/
theorem leads_part {p : Parser} (hstate : p.state = .newEntry) {part : Part}
    (hpart : IsPart p.boundary part) {rest : Text}
    (hbuf : p.buf = partText p.boundary part ++ rest) :
    ∃ file, Leads parseRound p { p with
      buf := rest, state := .boundary, file := file, files := p.files ++ [part.data] } := by
  let body := part.content ++ separator p.boundary ++ rest
  have hlines : p.buf = block part.headers ++ body := by
    rw [hbuf, partText]
    simp only [body, List.append_assoc]
  let file := part.headers.foldl fileHeader .empty
  have hbody := @parseRound_body
    { p with buf := body, file := file, files := p.files ++ [file], state := .body } rfl
    p.files file rfl part.content rest rfl hpart.content
  refine ⟨file, (leads_body hstate hpart.lines hlines).trans (.next hbody ?_)⟩
  have hempty : file.content = [] := foldl_fileHeader_content part.headers .empty
  have hdata : { file with content := file.content ++ part.content } = part.data := by
    rw [hempty]
    rfl
  rw [hdata]
  exact .refl _

/-- What follows the separator: parts, and the end of the form. -/
theorem exists_run_parts {p : Parser} (hstate : p.state = .boundary) {parts : List Part}
    (hparts : ∀ part ∈ parts, IsPart p.boundary part)
    (hbuf : p.buf = (parts.flatMap fun part => crlf ++ partText p.boundary part) ++ (dash ++ crlf)) :
    ∃ q, (∃ k, run parseRound k p = some (true, q)) ∧ q.isValid = true ∧ q.buf = [] ∧
      q.files = p.files ++ parts.map Part.data := by
  induction parts generalizing p with
  | nil =>
      let q : Parser := { p with buf := [], isValid := true, state := .done }
      have hend : p.buf = dash ++ crlf := hbuf
      have hround : parseRound p = .next q := by
        have hno : ¬ strstr crlf (dash ++ crlf) = some 0 := by decide
        have hyes : strstr (dash ++ crlf) (dash ++ crlf) = some 0 := by decide
        rw [parseRound, hend, if_neg (by decide)]
        simp only [hstate, if_neg hno, hyes, if_true, Parser.erase, hend]
        rfl
      have hdone : parseRound q = .result (true, q) := by
        rw [parseRound]
        exact if_pos rfl
      refine ⟨q, ⟨2, ?_⟩, rfl, rfl, by simp [q]⟩
      rw [run_next hround, run_result hdone]
  | cons part parts ih =>
      rw [List.forall_mem_cons] at hparts
      let rest := (parts.flatMap fun part => crlf ++ partText p.boundary part) ++ (dash ++ crlf)
      have hsplit : p.buf = crlf ++ (partText p.boundary part ++ rest) := by
        rw [hbuf, List.flatMap_cons]
        simp only [rest, List.append_assoc]
      have hround : parseRound p = .next { p with
          buf := partText p.boundary part ++ rest, state := .newEntry } := by
        have hne : ¬ p.buf.isEmpty = true := by simp [hsplit, crlf]
        have hshort : ¬ p.buf.length < crlf.length := by
          rw [hsplit, List.length_append]
          omega
        have hpos : strstr crlf p.buf = some 0 := hsplit ▸ strstr_of_start (List.prefix_append _ _)
        have hdrop : p.buf.drop crlf.length = partText p.boundary part ++ rest := by
          rw [hsplit, List.drop_left]
        rw [parseRound, if_neg hne]
        simp only [hstate, if_neg hshort, hpos, if_true, Parser.erase, hdrop]
      rcases @leads_part { p with buf := partText p.boundary part ++ rest, state := .newEntry }
        rfl part hparts.1 rest rfl with ⟨file, hpart⟩
      rcases ih (p := { p with
        buf := rest, state := .boundary, file := file, files := p.files ++ [part.data] })
        rfl hparts.2 rfl with ⟨q, hrun, hvalid, hempty, hfiles⟩
      refine ⟨q, (Leads.next hround hpart).exists_run hrun, hvalid, hempty, ?_⟩
      rw [hfiles, List.map_cons, List.append_assoc]
      rfl

/-- A form that comes in one buffer is valid, and its parts are read in order. -/
theorem parse_multipartText {boundary : Text} {parts : List Part} (hne : parts ≠ [])
    (hparts : ∀ part ∈ parts, IsPart boundary part) :
    ∃ p, parse (.init boundary) (multipartText boundary parts) = some (true, p) ∧
      p.isValid = true ∧ p.files = parts.map Part.data := by
  rcases List.exists_cons_of_ne_nil hne with ⟨part, parts, rfl⟩
  rw [List.forall_mem_cons] at hparts
  let rest := (parts.flatMap fun part => crlf ++ partText boundary part) ++ (dash ++ crlf)
  have hsplit : multipartText boundary (part :: parts) =
      boundaryLine boundary ++ (partText boundary part ++ rest) := by
    rw [multipartText, boundaryLine, List.flatMap_cons]
    simp only [rest, List.append_assoc]
  have hfirst := parseRound_initialBoundary boundary (partText boundary part ++ rest)
  rcases @leads_part { Parser.init boundary with
      buf := partText boundary part ++ rest, state := .newEntry }
    rfl part hparts.1 rest rfl with ⟨file, hpart⟩
  rcases @exists_run_parts { Parser.init boundary with
      buf := rest, state := .boundary, file := file, files := [part.data] }
    rfl parts hparts.2 rfl with ⟨q, hrun, hvalid, -, hfiles⟩
  refine ⟨q, ?_, hvalid, hfiles⟩
  rw [hsplit]
  refine run_eq_of_exists parseRound_of_stuck parseRound_work ?_ (Nat.lt_succ_self _)
  exact (Leads.next hfirst hpart).exists_run hrun

/-! ## A form in two buffers -/

/-- A buffer in which no separator starts is content, all of it. -/
theorem parseRound_content {p : Parser} (hstate : p.state = .body)
    (hlength : (crlf ++ dash).length ≤ p.buf.length) (hnone : strstr (crlf ++ dash) p.buf = none) :
    ∃ q, parseRound p = .result (true, q) ∧ q.state = .body ∧ q.buf = [] ∧
      q.isValid = p.isValid := by
  have hne : ¬ p.buf.isEmpty = true := by
    intro hempty
    rw [List.isEmpty_iff.mp hempty] at hlength
    exact absurd hlength (by decide)
  refine ⟨(p.content p.buf.length).erase p.buf.length, ?_, hstate, ?_, rfl⟩
  · rw [parseRound, if_neg hne]
    simp only [hstate, if_neg (Nat.not_lt.mpr hlength), hnone, Option.getD_none]
    rw [if_pos]
    simp [Parser.erase, Parser.content, crlf]
  · simp [Parser.erase, Parser.content]

/-- A form of one part up to the first byte of its last separator, and the rest. -/
def formStart (boundary : Text) (part : Part) : Text :=
  boundaryLine boundary ++ (block part.headers ++ (part.content ++ ['\r']))

def formEnd (boundary : Text) : Text := '\n' :: (dash ++ boundary ++ dash) ++ crlf

theorem formStart_append (boundary : Text) (part : Part) :
    formStart boundary part ++ formEnd boundary = multipartText boundary [part] := by
  simp [formStart, formEnd, multipartText, boundaryLine, partText, separator, crlf]

/-- In one buffer the form is valid. In two buffers it is not, for a content of three bytes or
more that has no `CRLF--`, and a boundary without a carriage return. -/
theorem parse_split_form {boundary : Text} {part : Part} (hpart : IsPart boundary part)
    (hlong : 3 ≤ part.content.length) (hcontent : strstr (crlf ++ dash) part.content = none)
    (hboundary : '\r' ∉ boundary) :
    (∃ p, parse (.init boundary) (formStart boundary part ++ formEnd boundary) = some (true, p) ∧
      p.isValid = true ∧ p.files = [part.data]) ∧
    ∃ p q, parse (.init boundary) (formStart boundary part) = some (true, p) ∧
      parse p (formEnd boundary) = some (true, q) ∧ q.isValid = false := by
  constructor
  · rw [formStart_append]
    exact parse_multipartText (List.cons_ne_nil part []) (by simpa using hpart)
  · -- the first buffer, up to the content
    let start : Parser := { Parser.init boundary with
      buf := block part.headers ++ (part.content ++ ['\r']), state := .newEntry }
    have hbody := @leads_body start rfl _ hpart.lines _ rfl
    have hnone : strstr (crlf ++ dash) (part.content ++ ['\r']) = none := by
      rw [strstr_concat_of_last (by decide) (by decide), hcontent]
    rcases @parseRound_content { start with
        buf := part.content ++ ['\r'], state := .body
        file := part.headers.foldl fileHeader .empty
        files := [] ++ [part.headers.foldl fileHeader .empty] } rfl
      (by simp [crlf, dash, hlong]) hnone with ⟨p, hround, hstate, hbuf, hvalid⟩
    have hrun : ∃ k, run parseRound k { Parser.init boundary with
        buf := [] ++ formStart boundary part } = some (true, p) := by
      rw [List.nil_append, formStart]
      exact (Leads.next (parseRound_initialBoundary boundary _) hbody).exists_run
        ⟨1, run_result hround 0⟩
    have hfirst : parse (.init boundary) (formStart boundary part) = some (true, p) :=
      run_eq_of_exists parseRound_of_stuck parseRound_work hrun (Nat.lt_succ_self _)
    -- the second one
    have hnone' : strstr (crlf ++ dash) (formEnd boundary) = none := by
      have hcr : '\r' ∉ '\n' :: (dash ++ boundary ++ dash) := by simp [dash, hboundary]
      rw [formEnd, strstr_append_of_notMem crlf (by decide) hcr]
      rfl
    have hlength : (crlf ++ dash).length ≤ (formEnd boundary).length := by
      simp [formEnd, crlf, dash]
    rcases @parseRound_content { p with buf := p.buf ++ formEnd boundary } hstate
      (by rw [hbuf]; exact hlength) (by rw [hbuf]; exact hnone') with
      ⟨q, hround', -, -, hvalid'⟩
    have hsecond : parse p (formEnd boundary) = some (true, q) := run_result hround' _
    exact ⟨p, q, hfirst, hsecond, hvalid'.trans hvalid⟩

theorem parse_split_form_abc :
    (∃ p, parse (.init ['b']) (formStart ['b'] ⟨[], "abc".toList⟩ ++ formEnd ['b']) =
        some (true, p) ∧ p.isValid = true ∧ p.files = [Part.data ⟨[], "abc".toList⟩]) ∧
      ∃ p q, parse (.init ['b']) (formStart ['b'] ⟨[], "abc".toList⟩) = some (true, p) ∧
        parse p (formEnd ['b']) = some (true, q) ∧ q.isValid = false :=
  @parse_split_form ['b'] ⟨[], "abc".toList⟩ ⟨by simp, by decide⟩ (by decide) (by decide)
    (by decide)

end HelpCovid.Http
