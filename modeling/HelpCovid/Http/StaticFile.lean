import HelpCovid.Http.Message
import HelpCovid.Lib.Machine
import HelpCovid.Lib.Path
import Mathlib.Data.List.DropRight

/-!
# Static files

`Server::handle_file_request` answers a request with a file below a directory
that is mounted at a prefix of its path; the program mounts the web root at `/`.
`is_valid_path` counts the levels of the rest of the path and accepts exactly the
paths that never lead above the directory they start from (`isValidPath_iff`).
The name is then handed to C functions, which cut it at a zero byte: what can be
left over is a final `..`, and that is no regular file. So whatever the path of
the request decodes to, the file that is read is below a mounted directory, and
so is each component on the way (`handleFileRequest_below`).
-/

namespace HelpCovid.Http

open CText Path Web

/-! ## The path -/

/-- `while (i < path.size() && path[i] == '/') { i++; }` -/
def skipSlash (s : Text) : Text := s.dropWhile (· == '/')

/-- The second loop of `is_valid_path`, at the start of a component; one round for
each unit of fuel. -/
def isValidPathFrom : (fuel level : Nat) → Text → Bool
  | 0, _, _ => true
  | fuel + 1, level, s =>
      if s.isEmpty then true
      else
        let component := s.takeWhile (· != '/')
        let rest := skipSlash (s.dropWhile (· != '/'))
        if component = dot then isValidPathFrom fuel level rest
        else if component = dotDot then
          if level = 0 then false else isValidPathFrom fuel (level - 1) rest
        else isValidPathFrom fuel (level + 1) rest

/-- `detail::is_valid_path` -/
def isValidPath (path : Text) : Bool := isValidPathFrom path.length 0 (skipSlash path)

theorem components_skipSlash (s : Text) : components (skipSlash s) = components s := by
  induction s with
  | nil => rfl
  | cons c s ih =>
      by_cases hc : c = '/'
      · rw [hc, components_slash, ← ih]
        rfl
      · rw [skipSlash, List.dropWhile_cons_of_neg (by simpa using hc)]

theorem head?_skipSlash (s : Text) : (skipSlash s).head? ≠ some '/' := by
  intro h
  have hnot := List.head?_dropWhile_not (· == '/') s
  rw [← skipSlash, h] at hnot
  simp at hnot

theorem length_skipSlash_le (s : Text) : (skipSlash s).length ≤ s.length :=
  (List.dropWhile_sublist _).length_le

/-- The text at the start of a component is the component and what follows. -/
theorem components_eq_cons {s : Text} (hne : s ≠ []) (hhead : s.head? ≠ some '/') :
    components s =
      s.takeWhile (· != '/') :: components (skipSlash (s.dropWhile (· != '/'))) := by
  have hsplit : s.takeWhile (· != '/') ++ s.dropWhile (· != '/') = s :=
    List.takeWhile_append_dropWhile
  have hcomponent : components (s.takeWhile (· != '/')) = [s.takeWhile (· != '/')] := by
    refine components_of_notMem ?_ fun hmem => ?_
    · cases s with
      | nil => exact absurd rfl hne
      | cons c s =>
          have hc : c ≠ '/' := by simpa using hhead
          simp [hc]
    · simpa using List.mem_takeWhile_imp hmem
  rw [components_skipSlash]
  cases hrest : s.dropWhile (· != '/') with
  | nil =>
      rw [hrest, List.append_nil] at hsplit
      rw [hsplit] at hcomponent ⊢
      exact hcomponent
  | cons d rest =>
      have hd : d = '/' := by
        have hnot := List.head?_dropWhile_not (· != '/') s
        rw [hrest] at hnot
        simpa using hnot
      rw [hrest, hd] at hsplit
      rw [hd, components_slash]
      conv_lhs => rw [← hsplit]
      rw [components_append_slash, hcomponent]
      rfl

theorem isValidPathFrom_eq {s : Text} {fuel : Nat} (hfuel : s.length ≤ fuel)
    (hhead : s.head? ≠ some '/') (level : Nat) :
    isValidPathFrom fuel level s = (climb level (components s)).isSome := by
  induction fuel generalizing s level with
  | zero =>
      obtain rfl : s = [] := List.eq_nil_of_length_eq_zero (Nat.le_zero.mp hfuel)
      rfl
  | succ fuel ih =>
      by_cases hne : s = []
      · subst hne
        rfl
      · have hcons := components_eq_cons hne hhead
        have hpos : 0 < (s.takeWhile (· != '/')).length := by
          cases s with
          | nil => exact absurd rfl hne
          | cons c s =>
              have hc : c ≠ '/' := by simpa using hhead
              simp [hc]
        have hlength : (s.takeWhile (· != '/')).length + (s.dropWhile (· != '/')).length =
            s.length := by
          rw [← List.length_append, List.takeWhile_append_dropWhile]
        have hle := length_skipSlash_le (s.dropWhile (· != '/'))
        -- the rounds left are enough for the rest
        have hrest := fun level => ih (s := skipSlash (s.dropWhile (· != '/'))) (by omega)
          (head?_skipSlash _) level
        rw [hcons, isValidPathFrom, if_neg (by simpa using hne)]
        simp only [climb, hrest]
        split
        · rfl
        · split
          · split <;> rfl
          · rfl

theorem isValidPath_eq (path : Text) :
    isValidPath path = (climb 0 (components path)).isSome := by
  rw [isValidPath, isValidPathFrom_eq (length_skipSlash_le path) (head?_skipSlash path),
    components_skipSlash]

/-- The valid paths are those that lead out of no directory they start from, at
none of their components. -/
theorem isValidPath_iff (path : Text) {dir : List Text} (hdir : dir ≠ []) :
    isValidPath path = true ↔ ∀ n, dir <+: resolve dir ((components path).take n) := by
  rw [isValidPath_eq]
  exact climb_isSome_iff hdir

/-- Up and down again. -/
theorem isValidPath_iff_srv :
    isValidPath "/a/../b".toList = true ↔ ∀ n,
      ["srv".toList] <+: resolve ["srv".toList] ((components "/a/../b".toList).take n) :=
  isValidPath_iff _ (by decide)

/-! ## The type of a file -/

def isAlnum (c : Char) : Bool := c.isAlphanum

/-- `detail::file_extension`: what the expression `\.([a-zA-Z0-9]+)$` captures. -/
def fileExtension (path : Text) : Text :=
  let ext := path.rtakeWhile isAlnum
  if ext ≠ [] ∧ (path.rdropWhile isAlnum).getLast? = some '.' then ext else []

/-- `detail::find_content_type`; the program maps no extensions of its own. -/
def findContentType (path : Text) : Option Text :=
  let ext := fileExtension path
  if ext = "txt".toList then some "text/plain".toList
  else if ext = "html".toList ∨ ext = "htm".toList then some "text/html".toList
  else if ext = "css".toList then some "text/css".toList
  else if ext = "jpeg".toList ∨ ext = "jpg".toList then some "image/jpg".toList
  else if ext = "png".toList then some "image/png".toList
  else if ext = "gif".toList then some "image/gif".toList
  else if ext = "svg".toList then some "image/svg+xml".toList
  else if ext = "ico".toList then some "image/x-icon".toList
  else if ext = "json".toList then some "application/json".toList
  else if ext = "pdf".toList then some "application/pdf".toList
  else if ext = "js".toList then some "application/javascript".toList
  else if ext = "wasm".toList then some "application/wasm".toList
  else if ext = "xml".toList then some "application/xml".toList
  else if ext = "xhtml".toList then some "application/xhtml+xml".toList
  else none

/-! ## The request -/

/-- The name of the file for what follows the mount point in the path. -/
def filePath (baseDir subPath : Text) : Text :=
  let path := baseDir ++ subPath
  if path.getLast? = some '/' then path ++ "index.html".toList else path

/-- A regular file; one that cannot be opened is one too. -/
inductive RegularFile where
  | readable (content : Text)
  | unreadable
deriving Repr, DecidableEq

/-- `detail::read_file`. The size of a file that was not opened is -1, and `resize` throws
on it; nothing catches that. -/
def readFile : RegularFile → Except Stop Text
  | .readable content => .ok content
  | .unreadable => .error .terminate

section Files

-- the regular files by the names that the system is given
variable (files : Text → Option RegularFile)

/-- One round of the loop of `handle_file_request`. `is_file` and `read_file` hand
the name to C functions. -/
def mountedFile (reqPath : Text) (res : Response) (mount : Text × Text) :
    Option (Except Stop Response) :=
  if mount.1.isPrefixOf reqPath then
    let subPath := '/' :: reqPath.drop mount.1.length
    if isValidPath subPath then
      let path := filePath mount.2 subPath
      (files (cstr path)).map fun file => do
        let res := { res with body := ← readFile file }
        let res := match findContentType path with
          | some type => res.setHeader "Content-Type".toList type
          | none => res
        return { res with status := 200 }
    else none
  else none

/-- `Server::handle_file_request`; no handler of file requests is set. -/
def handleFileRequest (baseDirs : List (Text × Text)) (reqPath : Text) (res : Response) :
    Option (Except Stop Response) :=
  baseDirs.findSome? (mountedFile files reqPath res)

/-! ## No file outside -/

/-- A name that ends in `..` is one of a directory. -/
def DotDotIsDirectory : Prop :=
  ∀ p, (files p).isSome = true → (components p).getLast? ≠ some dotDot

variable {files}

/-- What the name of the file has after the mounted directory. -/
theorem filePath_eq (baseDir rest : Text) :
    ∃ rest', filePath baseDir ('/' :: rest) = baseDir ++ '/' :: rest' ∧
      (isValidPath ('/' :: rest) = true → (climb 0 (components rest')).isSome = true) := by
  rw [isValidPath_eq, components_slash]
  simp only [filePath]
  split
  · next hlast =>
      refine ⟨rest ++ "index.html".toList, by simp, fun h => ?_⟩
      -- the name of the directory ends in a slash
      have hslash : ∃ a, '/' :: rest = a ++ ['/'] := by
        rw [List.getLast?_append_of_ne_nil _ (by simp)] at hlast
        exact List.getLast?_eq_some_iff.mp hlast
      rcases hslash with ⟨a, ha⟩
      have hcomponents : components rest = components a := by
        rw [← components_slash rest, ha, components_append_slash, components_nil, List.append_nil]
      have hindex : components (rest ++ "index.html".toList) =
          components a ++ components "index.html".toList := by
        rw [← components_slash, ← List.cons_append, ha, List.append_assoc]
        exact components_append_slash a _
      rw [hcomponents] at h
      rw [hindex, climb_append]
      rcases Option.isSome_iff_exists.mp h with ⟨level, hlevel⟩
      rw [hlevel]
      rfl
  · exact ⟨rest, rfl, id⟩

/-- A valid path cut short stays below, unless it ends in `..`. -/
theorem climb_of_prefix {t s : Text} (h : t <+: s) (hs : (climb 0 (components s)).isSome = true)
    (hlast : (components t).getLast? ≠ some dotDot) :
    (climb 0 (components t)).isSome = true := by
  rcases components_of_prefix h with ⟨front, last, ht, ⟨back, hback⟩, hlength⟩
  rw [← hback] at hs
  rcases Option.isSome_iff_exists.mp (isSome_climb_of_append hs) with ⟨level, hlevel⟩
  rw [ht] at hlast ⊢
  rw [climb_append, hlevel]
  cases last with
  | nil => rfl
  | cons c rest =>
      obtain rfl : rest = [] := by simpa using hlength
      have hc : c ≠ dotDot := by
        intro heq
        exact hlast (by simp [heq])
      rw [Option.bind_some, climb, if_neg hc]
      split <;> rfl

/-- Every file that a request is answered with is below a mounted directory: from
there on no component of its name leads out of that directory. -/
theorem handleFileRequest_below {baseDirs : List (Text × Text)} (hfiles : DotDotIsDirectory files)
    (hbase : ∀ mount ∈ baseDirs, '\x00' ∉ mount.2) {reqPath : Text} {res res' : Response}
    (h : handleFileRequest files baseDirs reqPath res = some (.ok res')) :
    ∃ mount ∈ baseDirs, ∃ p cs, files p = some (.readable res'.body) ∧
      components p = components mount.2 ++ cs ∧
      ∀ cwd n, resolve cwd (components mount.2) <+: resolve cwd (components mount.2 ++ cs.take n) := by
  rcases List.exists_of_findSome?_eq_some h with ⟨mount, hmount, hround⟩
  simp only [mountedFile, Option.ite_none_right_eq_some, Option.map_eq_some_iff] at hround
  rcases hround with ⟨-, hvalid, file, hfile, hres⟩
  rcases Machine.ok_of_bind hres with ⟨content, hcontent, hres⟩
  have hbody : res'.body = content := by
    rw [← Except.ok.inj hres]
    split <;> rfl
  have hreadable : file = .readable res'.body := by
    rw [hbody]
    cases file with
    | readable => exact congrArg RegularFile.readable (Except.ok.inj hcontent)
    | unreadable => cases hcontent
  rw [hreadable] at hfile
  rcases filePath_eq mount.2 (reqPath.drop mount.1.length) with ⟨rest, hpath, hclimb⟩
  have hcstr : cstr (filePath mount.2 ('/' :: reqPath.drop mount.1.length)) =
      mount.2 ++ '/' :: cstr rest := by
    rw [hpath, cstr_append (hbase mount hmount), cstr_cons (by decide)]
  rw [hcstr] at hfile
  have hcomponents : components (mount.2 ++ '/' :: cstr rest) =
      components mount.2 ++ components (cstr rest) := components_append_slash _ _
  refine ⟨mount, hmount, _, components (cstr rest), hfile, hcomponents, fun cwd n => ?_⟩
  have hlast : (components (cstr rest)).getLast? ≠ some dotDot := by
    intro hlast
    have hsome : (files (mount.2 ++ '/' :: cstr rest)).isSome = true := by rw [hfile]; rfl
    refine hfiles _ hsome ?_
    rw [hcomponents, List.getLast?_append, hlast]
    rfl
  have hsome := climb_of_prefix (List.takeWhile_prefix _) (hclimb hvalid) hlast
  rw [resolve_append]
  refine below_of_climb (isSome_climb_of_append (b := (components (cstr rest)).drop n) ?_) _
  rwa [List.take_append_drop]

/-- A system with one regular file. -/
def oneFile (name content p : Text) : Option RegularFile :=
  if p = name then some (.readable content) else none

theorem dotDotIsDirectory_oneFile {name : Text} (h : (components name).getLast? ≠ some dotDot)
    (content : Text) : DotDotIsDirectory (oneFile name content) := by
  intro p hp
  unfold oneFile at hp
  split at hp
  · next heq => rwa [heq]
  · cases hp

/-- A path that goes up and down again, and is cut at a zero byte. -/
theorem handleFileRequest_below_cut :
    ∃ mount ∈ [("/".toList, "/w/".toList)], ∃ p cs,
      oneFile "/w//a/../b".toList "B".toList p = some (.readable "B".toList) ∧
        components p = components mount.2 ++ cs ∧
        ∀ cwd n, resolve cwd (components mount.2) <+:
          resolve cwd (components mount.2 ++ cs.take n) :=
  @handleFileRequest_below (oneFile "/w//a/../b".toList "B".toList)
    [("/".toList, "/w/".toList)] (dotDotIsDirectory_oneFile (by decide) _) (by decide)
    "/a/../b\x00.html".toList .init
    ⟨[], 200, [("Content-Type".toList, "text/html".toList)], "B".toList⟩ (by decide)

end Files

end HelpCovid.Http
