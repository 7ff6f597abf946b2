import HelpCovid.Http.Headers
import HelpCovid.Http.Query

/-!
# The request line

`Server::parse_request_line` matches the line, as a C string, with one expression
and takes the method, the target and the version from it. The path is the part of
the target before a question mark, decoded; what is after it is the query. The
lines that are accepted are those of a method, a target and a version, and each is
taken apart into these (`parseRequestLine_eq_some_iff`); the lines that clients
write are among them (`parseRequestLine_requestLine`).
-/

namespace HelpCovid.Http

open CText Web

/-- The methods of the expression. -/
def methods : List Text :=
  ["GET", "HEAD", "POST", "PUT", "DELETE", "CONNECT", "OPTIONS", "TRACE", "PATCH", "PRI"].map
    String.toList

/-- The versions that `HTTP/1\.[01]` stands for. -/
def versions : List Text := ["HTTP/1.0", "HTTP/1.1"].map String.toList

/-- The path and the query of a target, from `([^?]+)(?:\?(.*?))?`. -/
def matchTarget (target : Text) : Option (Text × Text) :=
  let path := target.takeWhile (· != '?')
  let query := target.drop (path.length + 1)
  if path ≠ [] ∧ query.all isDot then some (path, query) else none

/-- What the expression ends with: a blank, a version and the end of the line. -/
def matchVersion (s : Text) : Option (Text × Text) :=
  let ending := s.drop (s.length - 11)
  let version := (ending.drop 1).take 8
  if ending = ' ' :: (version ++ crlf) ∧ versions.contains version then
    some (s.take (s.length - 11), version)
  else none

/-- `Server::parse_request_line` -/
def parseRequestLine (line : Text) : Option Request := do
  let s := cstr line
  let method := s.takeWhile (· != ' ')
  guard (methods.contains method ∧ method.length < s.length)
  let (target, version) ← matchVersion (s.drop (method.length + 1))
  let (path, query) ← matchTarget target
  return {
    method := method
    target := target
    path := decodeUrl path false
    version := version
    headers := []
    params := if query ≠ [] then parseQueryText query ∅ else ∅
    files := ∅
    body := []
    ranges := [] }

/-! ## The lines of clients -/

/-- A target: a path and perhaps a query, without control characters that would end
the line or the string. -/
structure IsTarget (target : Text) : Prop where
  path_ne : target.takeWhile (· != '?') ≠ []
  plain : '\x00' ∉ target ∧ '\n' ∉ target
  query : '\r' ∉ target

/-- The line of a request, without its end. -/
def requestLine (method target version : Text) : Text :=
  method ++ ' ' :: (target ++ ' ' :: version)

/-- The query of a target. -/
def queryOf (target : Text) : Text := target.drop ((target.takeWhile (· != '?')).length + 1)

theorem mem_methods_plain {method : Text} (h : method ∈ methods) :
    (∀ c ∈ method, c ≠ ' ' ∧ c ≠ '\x00' ∧ c ≠ '\n') := by
  have hall : methods.all fun m => m.all fun c => c != ' ' && c != '\x00' && c != '\n' := by
    decide
  intro c hc
  have hplain := List.all_eq_true.mp (List.all_eq_true.mp hall method h) c hc
  simpa [and_assoc] using hplain

theorem mem_versions_plain {version : Text} (h : version ∈ versions) :
    version.length = 8 ∧ ∀ c ∈ version, c ≠ '\x00' ∧ c ≠ '\n' := by
  have hall : versions.all fun v => v.length == 8 && v.all fun c => c != '\x00' && c != '\n' := by
    decide
  have hplain := List.all_eq_true.mp hall version h
  rw [Bool.and_eq_true, List.all_eq_true] at hplain
  exact ⟨by simpa using hplain.1, fun c hc => by simpa using hplain.2 c hc⟩

theorem matchVersion_append (target : Text) {version : Text} (h : version ∈ versions) :
    matchVersion (target ++ ' ' :: (version ++ crlf)) = some (target, version) := by
  have hlength := (mem_versions_plain h).1
  have hending : (' ' :: (version ++ crlf)).length = 11 := by simp [hlength, crlf]
  have hdrop : (target ++ ' ' :: (version ++ crlf)).length - 11 = target.length := by
    rw [List.length_append, hending, Nat.add_sub_cancel]
  have hversion : (version ++ crlf).take 8 = version := by
    rw [← hlength]
    exact List.take_left
  rw [matchVersion]
  simp only [hdrop, List.drop_left, List.take_left, List.drop_one, List.tail_cons, hversion]
  exact if_pos ⟨trivial, List.contains_iff_mem.mpr h⟩

/-- A version is found nowhere but at the end. -/
theorem eq_of_matchVersion {s target version : Text}
    (h : matchVersion s = some (target, version)) :
    s = target ++ ' ' :: (version ++ crlf) ∧ version ∈ versions := by
  rw [matchVersion] at h
  rcases Option.ite_none_right_eq_some.mp h with ⟨⟨hending, hversion⟩, hparts⟩
  rcases Prod.mk.inj (Option.some.inj hparts) with ⟨rfl, hv⟩
  rw [hv] at hending hversion
  refine ⟨?_, List.contains_iff_mem.mp hversion⟩
  rw [← hending, List.take_append_drop]

/-- A target with a path; its query is on the line. -/
structure HasPath (target : Text) : Prop where
  path_ne : target.takeWhile (· != '?') ≠ []
  query : (queryOf target).all isDot = true

theorem matchTarget_eq_some_iff {target path query : Text} :
    matchTarget target = some (path, query) ↔
      HasPath target ∧ path = target.takeWhile (· != '?') ∧ query = queryOf target := by
  rw [matchTarget, Option.ite_none_right_eq_some, Option.some.injEq, Prod.mk.injEq]
  constructor
  · rintro ⟨⟨hpath, hquery⟩, rfl, rfl⟩
    exact ⟨⟨hpath, hquery⟩, rfl, rfl⟩
  · rintro ⟨⟨hpath, hquery⟩, rfl, rfl⟩
    exact ⟨⟨hpath, hquery⟩, rfl, rfl⟩

theorem IsTarget.hasPath {target : Text} (h : IsTarget target) : HasPath target := by
  refine ⟨h.path_ne, List.all_eq_true.mpr fun c hc => ?_⟩
  have hmem : c ∈ target := List.mem_of_mem_drop hc
  have hnewline : c ≠ '\n' := fun heq => h.plain.2 (heq ▸ hmem)
  have hreturn : c ≠ '\r' := fun heq => h.query (heq ▸ hmem)
  simp [isDot, hnewline, hreturn]

/-- The request of a line. -/
def requestOf (method target version : Text) : Request where
  method := method
  target := target
  path := decodeUrl (target.takeWhile (· != '?')) false
  version := version
  headers := []
  params := parseQueryText (queryOf target) ∅
  files := ∅
  body := []
  ranges := []

/-- The method of a line ends with its first blank. -/
theorem line_method {method : Text} (hmethod : method ∈ methods) (rest : Text) :
    (method ++ ' ' :: rest).takeWhile (· != ' ') = method ∧
      (method ++ ' ' :: rest).drop (method.length + 1) = rest := by
  constructor
  · rw [List.takeWhile_append_of_pos]
    · simp
    · intro c hc
      simpa using (mem_methods_plain hmethod c hc).1
  · rw [← List.drop_drop, List.drop_left]
    rfl

theorem parseRequestLine_of_cstr {line method target version : Text}
    (hmethod : method ∈ methods) (htarget : HasPath target) (hversion : version ∈ versions)
    (hline : cstr line = requestLine method target version ++ crlf) :
    parseRequestLine line = some (requestOf method target version) := by
  have hcstr : cstr line = method ++ ' ' :: (target ++ ' ' :: (version ++ crlf)) := by
    simp [hline, requestLine]
  rcases line_method hmethod (target ++ ' ' :: (version ++ crlf)) with ⟨htake, hdrop⟩
  have hguard : methods.contains method ∧
      method.length < (method ++ ' ' :: (target ++ ' ' :: (version ++ crlf))).length :=
    ⟨List.contains_iff_mem.mpr hmethod, by simp⟩
  have hquery : (if queryOf target ≠ [] then parseQueryText (queryOf target) ∅ else ∅) =
      parseQueryText (queryOf target) ∅ := by
    split
    · rfl
    · next hnil => rw [not_not.mp hnil]; rfl
  have hmatch := matchTarget_eq_some_iff.mpr ⟨htarget, rfl, rfl⟩
  unfold parseRequestLine
  rw [hcstr]
  simp only [htake, hdrop, matchVersion_append target hversion, hmatch, Option.bind_eq_bind,
    Option.bind_some, guard, if_pos hguard, hquery]
  rfl

/-- What does not go on to the end stops at a blank. -/
theorem takeWhile_append_cons {s : Text}
    (h : (s.takeWhile (· != ' ')).length < s.length) :
    s = s.takeWhile (· != ' ') ++ ' ' :: s.drop ((s.takeWhile (· != ' ')).length + 1) := by
  induction s with
  | nil => exact absurd h (Nat.lt_irrefl 0)
  | cons c s ih =>
      by_cases hc : c = ' '
      · simp [hc]
      · have hkeep : (c :: s).takeWhile (· != ' ') = c :: s.takeWhile (· != ' ') := by simp [hc]
        rw [hkeep, List.length_cons, List.length_cons] at h
        rw [hkeep, List.cons_append, List.length_cons, List.drop_succ_cons,
          ← ih (Nat.lt_of_succ_lt_succ h)]

/-- The accepted lines are a method, a target with a path and a version, up to a NUL, and
they are taken apart into these. The target may have blanks, and a version of its own. -/
theorem parseRequestLine_eq_some_iff (line : Text) (req : Request) :
    parseRequestLine line = some req ↔
      ∃ method ∈ methods, ∃ target, HasPath target ∧ ∃ version ∈ versions,
        cstr line = requestLine method target version ++ crlf ∧
          req = requestOf method target version := by
  constructor
  · intro h
    have hparsed := h
    unfold parseRequestLine at h
    rcases Option.bind_eq_some_iff.mp h with ⟨_, hguard, h⟩
    rcases Option.bind_eq_some_iff.mp h with ⟨⟨target, version⟩, hmatch, h⟩
    rcases Option.bind_eq_some_iff.mp h with ⟨⟨path, query⟩, htarget, -⟩
    have hmethod : methods.contains ((cstr line).takeWhile (· != ' ')) ∧
        ((cstr line).takeWhile (· != ' ')).length < (cstr line).length := by
      unfold guard at hguard
      split at hguard
      · assumption
      · cases hguard
    rcases eq_of_matchVersion hmatch with ⟨hrest, hversion⟩
    rcases matchTarget_eq_some_iff.mp htarget with ⟨hpath, -, -⟩
    have hline : cstr line =
        requestLine ((cstr line).takeWhile (· != ' ')) target version ++ crlf := by
      have hsplit := takeWhile_append_cons hmethod.2
      rw [hrest] at hsplit
      simpa [requestLine] using hsplit
    have hmem := List.contains_iff_mem.mp hmethod.1
    refine ⟨_, hmem, target, hpath, version, hversion, hline, ?_⟩
    exact Option.some.inj (hparsed.symm.trans (parseRequestLine_of_cstr hmem hpath hversion hline))
  · rintro ⟨method, hmethod, target, htarget, version, hversion, hline, rfl⟩
    exact parseRequestLine_of_cstr hmethod htarget hversion hline

/-- The line of a request is taken apart into what it was made of. -/
theorem parseRequestLine_requestLine {method target version : Text} (hmethod : method ∈ methods)
    (htarget : IsTarget target) (hversion : version ∈ versions) :
    parseRequestLine (requestLine method target version ++ crlf) =
      some (requestOf method target version) := by
  refine parseRequestLine_of_cstr hmethod htarget.hasPath hversion (cstr_of_notMem ?_)
  have h1 : '\x00' ∉ method := fun hmem => (mem_methods_plain hmethod _ hmem).2.1 rfl
  have h2 : '\x00' ∉ version := fun hmem => ((mem_versions_plain hversion).2 _ hmem).1 rfl
  simp [requestLine, crlf, h1, h2, htarget.plain.1]

end HelpCovid.Http
