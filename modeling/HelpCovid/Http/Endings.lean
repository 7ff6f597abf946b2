import HelpCovid.Http.Connection

/-!
# How a client stops the server

Two requests are not survived, whatever the handlers do and whatever the path is. A
`Range` field with a number that does not fit into 64 bits ends the process
(`range_ends`). A multipart form that ends within a header line keeps its worker for
ever, however its content is framed and however its bytes arrive (`form_hangs`): the
parser is inside the first boundary or between two header lines after every buffer
it comes back from, and does not come back from a buffer that ends in a line.
-/

namespace HelpCovid.Http

open CText Loop Machine Web

/-! ## Forms that are cut -/

/-- Some header lines, and the beginning of one more. -/
def HeaderCut (text : Text) : Prop :=
  ∃ (ls : List Text) (part : Text), (∀ l ∈ ls, IsLine l) ∧ part ≠ [] ∧ '\n' ∉ part ∧
    text = ls.flatMap (· ++ crlf) ++ part

/-- A form that ends within a header line of its first part. -/
def IsCut (boundary text : Text) : Prop :=
  ∃ rest, HeaderCut rest ∧ text = boundaryLine boundary ++ rest

/-- Where the parser is in such a form, with what is still to come. -/
inductive Inside (boundary : Text) : Parser → Text → Prop
  | start {buf left rest : Text} (hlength : buf.length < (boundaryLine boundary).length)
      (hcut : HeaderCut rest) (htext : buf ++ left = boundaryLine boundary ++ rest) :
      Inside boundary { Parser.init boundary with buf := buf } left
  | headers {p : Parser} {left : Text} (hstate : p.state = .newEntry ∨ p.state = .headers)
      (hbuf : p.buf = []) (hcut : HeaderCut left) : Inside boundary p left

theorem not_headerCut_nil : ¬ HeaderCut [] := by
  rintro ⟨ls, part, -, hpart, -, htext⟩
  exact hpart (List.append_eq_nil_iff.mp htext.symm).2

/-- Something is still to come. -/
theorem not_inside_nil (boundary : Text) (p : Parser) : ¬ Inside boundary p [] := by
  intro h
  cases h with
  | start hlength hcut htext =>
      have hlengths := congrArg List.length htext
      simp only [List.append_nil, List.length_append] at hlengths
      omega
  | headers hstate hbuf hcut => exact not_headerCut_nil hcut

/-- The bytes that came are whole lines and perhaps a part of the next one. -/
theorem lines_of_headerCut {buf left : Text} (h : HeaderCut (buf ++ left)) :
    ∃ (ls : List Text) (part : Text), (∀ l ∈ ls, IsLine l) ∧
      buf = ls.flatMap (· ++ crlf) ++ part ∧ '\n' ∉ part ∧ (part = [] → HeaderCut left) := by
  rcases h with ⟨ls, part, hls, hpart, hend, htext⟩
  induction ls generalizing buf with
  | nil =>
      refine ⟨[], buf, by simp, by simp, fun hmem => hend ?_, fun hbuf => ?_⟩
      · rw [List.flatMap_nil, List.nil_append] at htext
        exact htext ▸ List.mem_append_left left hmem
      · rw [hbuf, List.flatMap_nil, List.nil_append, List.nil_append] at htext
        exact ⟨[], part, by simp, hpart, hend, by simpa using htext⟩
  | cons l ls ih =>
      rw [List.forall_mem_cons] at hls
      rw [List.flatMap_cons, List.append_assoc] at htext
      rcases List.append_eq_append_iff.mp htext with ⟨more, hline, hleft⟩ | ⟨buf', hbuf, hrest⟩
      · -- within the first line, or at its end
        by_cases hmore : more = []
        · refine ⟨[l], [], by simpa using hls.1, ?_, by simp, fun _ => ?_⟩
          · rw [hmore, List.append_nil] at hline
            simp [hline]
          · rw [hmore, List.nil_append] at hleft
            exact ⟨ls, part, hls.2, hpart, hend, hleft⟩
        · refine ⟨[], buf, by simp, by simp, fun hmem => ?_, fun hbuf => ?_⟩
          · have hdrop := congrArg List.dropLast hline
            rw [List.dropLast_append_of_ne_nil hmore] at hdrop
            have hmem' : '\n' ∈ (l ++ crlf).dropLast := by
              rw [hdrop]
              exact List.mem_append_left _ hmem
            rw [List.dropLast_append_of_ne_nil (by simp [crlf])] at hmem'
            rcases List.mem_append.mp hmem' with hl | hcr
            · exact hls.1.2 hl
            · exact absurd hcr (by decide)
          · refine ⟨l :: ls, part, List.forall_mem_cons.mpr hls, hpart, hend, ?_⟩
            rw [hleft, List.flatMap_cons, hline, hbuf]
            simp
      · rcases ih hls.2 hrest.symm with ⟨ls', part', hls', hbuf', hend', hnext⟩
        refine ⟨l :: ls', part', List.forall_mem_cons.mpr ⟨hls.1, hls'⟩, ?_, hend', hnext⟩
        rw [hbuf, hbuf', List.flatMap_cons]
        simp only [List.append_assoc]

/-- From the headers on, the parser gets stuck or has read whole lines. -/
theorem headers_step (boundary : Text) {p : Parser}
    (hstate : p.state = .newEntry ∨ p.state = .headers) {buf left : Text}
    (hbuf : p.buf = buf) (hcut : HeaderCut (buf ++ left)) :
    (∃ q, Leads parseRound p q ∧ q.Stuck) ∨
      ∃ q, (∃ fuel, run parseRound fuel p = some (true, q)) ∧ Inside boundary q left := by
  -- a buffer that is used up
  have hempty : ∀ {q : Parser}, q.buf = [] → ∃ fuel, run parseRound fuel q = some (true, q) := by
    intro q hq
    have hround : parseRound q = .result (true, q) := by rw [parseRound, if_pos (by simp [hq])]
    exact ⟨1, run_result hround 0⟩
  by_cases hne : buf = []
  · rw [hne] at hbuf
    rw [hne, List.nil_append] at hcut
    exact Or.inr ⟨p, hempty hbuf, .headers hstate hbuf hcut⟩
  · have hheaders : ∃ q : Parser, Leads parseRound p q ∧ q.state = .headers ∧ q.buf = buf := by
      rcases hstate with hnew | hheaders
      · have hround := parseRound_newEntry hnew (hbuf ▸ hne)
        exact ⟨_, .next hround (.refl _), rfl, hbuf⟩
      · exact ⟨p, .refl p, hheaders, hbuf⟩
    rcases hheaders with ⟨q, hleads, hq, hqbuf⟩
    rcases lines_of_headerCut hcut with ⟨ls, part, hls, hlines, hend, hnext⟩
    have hread := hleads.trans (leads_headers hq hls (hqbuf.trans hlines))
    by_cases hpart : part = []
    · refine Or.inr ⟨_, hread.exists_run (hempty hpart), .headers (Or.inr hq) hpart (hnext hpart)⟩
    · refine Or.inl ⟨_, hread, hq, hpart, ?_⟩
      exact strstr_eq_none_of_notMem (List.mem_cons_of_mem _ List.mem_cons_self) hend

/-- However the bytes of a form that is cut arrive, the parser stays in it or does not
come back. -/
theorem takes_cut (boundary : Text) : Takes (Inside boundary) True parse := by
  have hstep : ∀ {p : Parser} {buf left : Text},
      (∃ q, Leads parseRound { p with buf := p.buf ++ buf } q ∧ q.Stuck) ∨
        (∃ q, (∃ fuel, run parseRound fuel { p with buf := p.buf ++ buf } = some (true, q)) ∧
          Inside boundary q left) →
      (True ∧ parse p buf = none) ∨ ∃ q, parse p buf = some (true, q) ∧ Inside boundary q left := by
    rintro p buf left (hstuck | ⟨q, hrun, hq⟩)
    · exact Or.inl ⟨trivial, (parse_eq_none_iff p buf).mpr hstuck⟩
    · exact Or.inr ⟨q, run_eq_of_exists parseRound_of_stuck parseRound_work hrun
        (Nat.lt_succ_self _), hq⟩
  intro p buf left hne h
  cases h with
  | @headers _ _ hstate hbuf hcut =>
      refine hstep (@headers_step boundary { p with buf := p.buf ++ buf } hstate buf left ?_ hcut)
      rw [hbuf, List.nil_append]
  | @start buf₀ _ rest hlength hcut htext =>
      refine hstep ?_
      rw [← List.append_assoc] at htext
      by_cases hshort : (buf₀ ++ buf).length < (boundaryLine boundary).length
      · -- still within the boundary
        right
        refine ⟨{ Parser.init boundary with buf := buf₀ ++ buf }, ⟨1, run_result ?_ 0⟩,
          .start hshort hcut htext⟩
        rw [parseRound, if_neg (by simp [hne])]
        exact if_pos hshort
      · have hprefix : boundaryLine boundary <+: buf₀ ++ buf :=
          List.prefix_of_prefix_length_le ⟨rest, htext.symm⟩ (List.prefix_append _ left)
            (Nat.not_lt.mp hshort)
        rcases hprefix with ⟨buf', hbuf'⟩
        rw [← hbuf', List.append_assoc] at htext
        have hrest : HeaderCut (buf' ++ left) := List.append_cancel_left htext ▸ hcut
        have hround := parseRound_initialBoundary boundary buf'
        simp only [Parser.init] at hbuf' ⊢
        rw [← hbuf']
        rcases @headers_step boundary { Parser.init boundary with buf := buf', state := .newEntry }
          (Or.inl rfl) buf' left rfl hrest with ⟨q, hleads, hstuck⟩ | ⟨q, hrun, hq⟩
        · exact Or.inl ⟨q, .next hround hleads, hstuck⟩
        · exact Or.inr ⟨q, (Leads.next hround (.refl _)).exists_run hrun, hq⟩

/-- The content of a form that is cut is never read to its end. -/
theorem readContent_cut (recvSize : Nat → Nat) {payloadMaxLength : Nat}
    (hsize : payloadMaxLength < 2 ^ 64) {headers : Headers} {boundary content text : Text}
    (hencoding : getHeaderValue headers "Content-Encoding".toList ≠ "gzip".toList)
    (hframed : Framed payloadMaxLength headers content text) (hcut : IsCut boundary content)
    (rest : Text) (failing : Bool) :
    readContent recvSize parse payloadMaxLength headers ⟨text ++ rest, failing⟩ (.init boundary) =
      none := by
  rcases hcut with ⟨cut, hcut, rfl⟩
  have hstart : Inside boundary (.init boundary) (boundaryLine boundary ++ cut ++ []) := by
    rw [List.append_nil]
    exact @Inside.start boundary [] (boundaryLine boundary ++ cut) cut (by simp [boundaryLine, dash])
      hcut rfl
  rcases readContent_takes (takes_cut boundary) recvSize hsize hencoding hframed [] rest failing
    hstart with ⟨-, hnone⟩ | ⟨p, -, hp⟩
  · exact hnone
  · exact absurd hp (not_inside_nil boundary p)

section Endings

variable {σ : Type} {server : Server σ} {env : Environment}

/-- A request with a form that is cut. -/
structure SendsCutForm (server : Server σ) (env : Environment) (r : ClientRequest) : Prop
    extends HasHead r where
  range : hasHeader (env.addRemote r.fields) "Range".toList = false
  expect : expectContent r.method = true
  encoding : getHeaderValue (env.addRemote r.fields) "Content-Encoding".toList ≠ "gzip".toList
  multipart : isMultipartFormData (env.addRemote r.fields) = true
  framed : Framed server.payloadMaxLength (env.addRemote r.fields) r.content r.framing
  cut : ∃ boundary, IsCut boundary r.content ∧ parseMultipartBoundary
    (getHeaderValue (env.addRemote r.fields) "Content-Type".toList) = some boundary

/-- A form that ends within a header line keeps its worker for ever, once the requests
before it on the connection are answered. -/
theorem form_hangs {r : ClientRequest} (hr : SendsCutForm server env r)
    (hsize : server.payloadMaxLength < 2 ^ 64) {before : List ClientRequest}
    (hbefore : ∀ q ∈ before, WellFormed server env q ∧ q.close = false) {count : Nat}
    (hcount : before.length < count) {s : σ} {answered : Text × List ClientRequest × σ}
    (hanswered : server.answers env count before s = .ok answered) (rest : Text) (failing : Bool) :
    server.processSocket env count
      ⟨before.flatMap ClientRequest.text ++ (r.text ++ rest), failing⟩ s = .error .hang := by
  have hne : r.text ++ rest ≠ [] := List.append_ne_nil_of_left_ne_nil (text_ne_nil r) rest
  refine processSocket_stops hbefore hsize hne (fun boundary lastConnection s => ?_) hcount hanswered
  have hfield : readRangeField (env.addRemote r.fields) = .ok [] := by
    rw [readRangeField, hr.range]
    rfl
  rcases hr.cut with ⟨formBoundary, hcut, hboundary⟩
  have hread := readContent_cut env.recvSize hsize hr.encoding hr.framed hcut rest failing
  have hrouting : server.routing env (r.head env []) freshResponse ⟨r.framing ++ rest, failing⟩ s =
      .error .hang := by
    rw [Server.routing, ClientRequest.head]
    simp only [if_neg (expectContent_ne hr.expect), hr.expect, if_true, Server.readContent,
      hr.multipart, readMultipart, hboundary, hread]
    rfl
  rw [processRequest_head hr.toHasHead, hfield, ok_bind, hrouting]
  rfl

/-- A form whose one part has the beginning of a header. -/
def cutForm : ClientRequest where
  method := "POST".toList
  target := "/".toList
  version := "HTTP/1.1".toList
  fields := [("Content-Type".toList, "multipart/form-data; boundary=b".toList),
    ("Content-Length".toList, "6".toList)]
  content := "--b\r\nC".toList
  framing := "--b\r\nC".toList

theorem sendsCutForm_cutForm : SendsCutForm pageServer quietEnvironment cutForm := by
  have hfields : ∀ f ∈ cutForm.fields, IsField f := by
    refine List.forall_mem_cons.mpr ⟨?_, List.forall_mem_singleton.mpr ?_⟩
    · constructor <;> decide
    · constructor <;> decide
  have hcut : IsCut ['b'] cutForm.content := by
    refine ⟨['C'], ⟨[], ['C'], by simp, by decide, by decide, rfl⟩, by decide⟩
  have hframed : Framed pageServer.payloadMaxLength
      (quietEnvironment.addRemote cutForm.fields) cutForm.content cutForm.framing :=
    @Framed.length _ _ "6".toList _ (by decide) (by decide) (by decide) (by decide) (by decide)
      (by decide)
  exact ⟨⟨by decide, ⟨by decide, by decide, by decide⟩, by decide, hfields, by decide⟩, by decide,
    by decide, by decide, by decide, hframed, ['b'], hcut, by decide⟩

/-! ## Ranges that do not fit -/

/-- A range with a number that does not fit into 64 bits ends the process, once the
requests before it on the connection are answered. -/
theorem range_ends {r : ClientRequest} (hr : HasHead r) {specs : List RangeSpec}
    (hwrites : WritesRanges specs (getHeaderValue r.fields "Range".toList))
    (hfits : (specs.take ((inForce specs).length + 1)).all fits = false)
    (hsize : server.payloadMaxLength < 2 ^ 64) {before : List ClientRequest}
    (hbefore : ∀ q ∈ before, WellFormed server env q ∧ q.close = false) {count : Nat}
    (hcount : before.length < count) {s : σ} {answered : Text × List ClientRequest × σ}
    (hanswered : server.answers env count before s = .ok answered) (rest : Text) (failing : Bool) :
    server.processSocket env count
      ⟨before.flatMap ClientRequest.text ++ (r.text ++ rest), failing⟩ s = .error .terminate := by
  have hne : r.text ++ rest ≠ [] := List.append_ne_nil_of_left_ne_nil (text_ne_nil r) rest
  refine processSocket_stops hbefore hsize hne (fun boundary lastConnection s => ?_) hcount hanswered
  have hvalue : getHeaderValue (env.addRemote r.fields) "Range".toList =
      getHeaderValue r.fields "Range".toList := by
    rw [getHeaderValue, findHeader_addRemote _ (by decide) (by decide), ← getHeaderValue]
  have hhas : hasHeader (env.addRemote r.fields) "Range".toList = true := by
    rw [hasHeader, findHeader_addRemote _ (by decide) (by decide)]
    cases hfind : findHeader "Range".toList r.fields with
    | some value => rfl
    | none =>
        rw [getHeaderValue, hfind] at hwrites
        generalize htext : cstr (Option.getD none []) = text at hwrites
        cases hwrites
        cases htext
  have hfield : readRangeField (env.addRemote r.fields) = .error .terminate := by
    rw [readRangeField, hhas, if_pos rfl, hvalue, parseRangeHeader_of_writes hwrites, hfits]
    rfl
  rw [processRequest_head hr, hfield]
  rfl

/-- The page from the byte 2^63 on. -/
def largeRange : ClientRequest where
  method := "GET".toList
  target := "/".toList
  version := "HTTP/1.1".toList
  fields := [("Range".toList, "bytes=9223372036854775808-".toList)]
  content := []
  framing := []

theorem range_ends_large :
    pageServer.processSocket quietEnvironment 1 ⟨largeRange.text, false⟩ 0 =
      .error .terminate := by
  have hfield : IsField ("Range".toList, "bytes=9223372036854775808-".toList) := by
    constructor <;> decide
  have hhead : HasHead largeRange :=
    ⟨by decide, ⟨by decide, by decide, by decide⟩, by decide,
      List.forall_mem_singleton.mpr hfield, by decide⟩
  have hspec : WritesSpec (some 9223372036854775808, none) ("9223372036854775808".toList ++ ['-']) :=
    @WritesSpec.intro (some 9223372036854775808, none) "9223372036854775808".toList []
      (.digits (by decide) (by decide) (by decide)) .omitted
  have hvalue : getHeaderValue largeRange.fields "Range".toList =
      "bytes=".toList ++ [','].intercalate ["9223372036854775808".toList ++ ['-']] := by decide
  have hstops := @range_ends Nat pageServer quietEnvironment largeRange hhead
    [(some 9223372036854775808, none)] (hvalue ▸ .intro hspec .nil) (by decide) (by decide) []
    (by simp) 1 (by decide) 0 ([], [], 0) rfl [] false
  rwa [List.flatMap_nil, List.nil_append, List.append_nil] at hstops

end Endings

end HelpCovid.Http
