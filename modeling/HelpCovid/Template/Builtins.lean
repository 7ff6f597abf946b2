import HelpCovid.Views.Message

/-!
# The builtin closures

`hcv_initialize_templates` registers the closures every page can use. They are
given here for the template data of an HTTP request; what else they read is the
process (`Server`), the clock and the random numbers (`Reading`, one for each
markup).
-/

namespace HelpCovid.Template

open CText ChunkMap Web Views

/-- What the builtin closures read that is fixed while the server runs. -/
structure Server where
  gitid : Text
  lastgitcommit : Text
  timestamp : Text
  hostname : Text
  webroot : Text
  pid : Int
  globchunkMap : StdMap Text Text
  dgettext : Text → Text

/-- The clock, as `strftime` prints it with `"%Y, %b, %d"` and with `"%c %Z"`, and
a random number. -/
structure Reading where
  dateText : Text
  nowText : Text
  random32 : BitVec 32
deriving Repr, DecidableEq

/-- The template data of a request: `Hcv_http_template_data`. -/
structure TemplateData where
  request : Request
  requestNumber : Int
deriving Repr, DecidableEq

/-- How the expansion of a page can fail. -/
inductive PageFailure where
  | scan (failure : Failure)
  | shortGitid
  | view (error : ViewFatal)
deriving Repr, DecidableEq

/-- A closure of `hcv_initialize_templates`. -/
abbrev Builtin := Server → TemplateData → Reading → Call → Except PageFailure Text

/-- `%ld` and `%u` -/
def decimal (n : Int) : Text := (toString n).toList

/-- A closure that writes a C string through `hcv_output_cstr_encoded_html`. -/
def encoded (source : Server → TemplateData → Reading → Call → Text) : Builtin :=
  fun srv tdata reading call => .ok (outputCstrEncodedHtml (source srv tdata reading call))

/-- A closure that writes as is. -/
def verbatim (source : Server → TemplateData → Reading → Call → Text) : Builtin :=
  fun srv tdata reading call => .ok (source srv tdata reading call)

def expandDate : Builtin := encoded fun _ _ reading _ => reading.dateText

def expandNow : Builtin := encoded fun _ _ reading _ => reading.nowText

/-- The `sscanf` has one conversion and is asked for more than one: every
instruction is invalid, and nothing is written. -/
def expandHtmlConfig : Builtin := verbatim fun _ _ _ _ => []

def expandRequestNumber : Builtin := encoded fun _ tdata _ _ => decimal tdata.requestNumber

def expandGitid : Builtin := encoded fun srv _ _ _ => srv.gitid

/-- The first third of the git id, and its final `+`. -/
def expandHalfGitid : Builtin := fun srv _ _ _ =>
  let gidstr := cstr srv.gitid
  let gidsiz := gidstr.length
  if gidsiz ≤ 4 then .error .shortGitid
  else if gidstr.getLast? = some '+' then .ok (gidstr.take (gidsiz / 3) ++ ['+'])
  else .ok (gidstr.take (gidsiz / 3))

def expandLastgitcommit : Builtin := encoded fun srv _ _ _ => srv.lastgitcommit

def expandTimestamp : Builtin := encoded fun srv _ _ _ => srv.timestamp

def expandPid : Builtin := verbatim fun srv _ _ _ => decimal srv.pid

def expandHostname : Builtin := verbatim fun srv _ _ _ => cstr srv.hostname

def expandRequestMethod : Builtin := encoded fun _ tdata _ _ => tdata.request.method

def expandRequestPath : Builtin := encoded fun _ tdata _ _ => tdata.request.path

def expandWebroot : Builtin := encoded fun srv _ _ _ => srv.webroot

def expandFilename : Builtin := encoded fun _ _ _ call => call.filename

def expandLineno : Builtin := verbatim fun _ _ _ call => decimal call.lineno

def expandOffset : Builtin := verbatim fun _ _ _ call => decimal call.offset

/-- `sscanf(procinstr+5, " basefilepos %20[A-Za-z0-9_] %38[A-Za-z0-9_] ?>%n", ...)`:
`tagbuf` and `classbuf`, when the first one was read. -/
def scanBasefilepos (procinstr : Text) : Option (Text × Text) := do
  let rest ← literal "basefilepos".toList (blanks (procinstr.drop 5))
  let (tagbuf, rest) ← scanSet 20 isNameChar (blanks rest)
  match scanSet 38 isNameChar (blanks rest) with
  | some (classbuf, _) => return (tagbuf, classbuf)
  | none => return (tagbuf, [])

/-- `strrchr(filename, '/')+1`, or the whole name. -/
def baseName (filename : Text) : Text := (filename.reverse.takeWhile (· != '/')).reverse

/-- Nothing is written for the instruction with `comment`: it is not scanned. -/
def expandBasefilepos : Builtin := fun _ _ _ call =>
  let procstr := cstr call.procinstr
  if procstr = "<?hcv basefilepos comment?>".toList then .ok []
  else match scanBasefilepos procstr with
    | none => .ok []
    | some (tagbuf, classbuf) =>
        let class_ := if classbuf.isEmpty then [] else " class='".toList ++ classbuf ++ ['\'']
        .ok ('<' :: tagbuf ++ class_ ++ ['>'] ++
          outputCstrEncodedHtml (baseName (cstr call.filename)) ++ ':' :: decimal call.lineno ++
          "</".toList ++ tagbuf ++ ['>'])

/-- `hcv_view_register_form_token` -/
def expandRegisterFormToken : Builtin := verbatim fun _ tdata reading _ =>
  'r' :: decimal tdata.requestNumber ++ '/' :: decimal reading.random32.toNat

def expandMsg : Builtin := fun srv tdata _ call =>
  (viewExpandMsg srv.globchunkMap srv.dgettext tdata.request call.procinstr).mapError .view

def expandConfmsg : Builtin := fun _ _ _ call =>
  (viewExpandConfmsg call.procinstr).mapError .view

/-- The registrations of `hcv_initialize_templates`, in order; the name `gitid`
is given twice. -/
def builtins : List (Text × Builtin) :=
  [("date".toList, expandDate), ("now".toList, expandNow),
    ("html_config".toList, expandHtmlConfig), ("request_number".toList, expandRequestNumber),
    ("gitid".toList, expandGitid), ("half_gitid".toList, expandHalfGitid),
    ("gitid".toList, expandLastgitcommit), ("timestamp".toList, expandTimestamp),
    ("pid".toList, expandPid), ("hostname".toList, expandHostname),
    ("request_method".toList, expandRequestMethod), ("request_path".toList, expandRequestPath),
    ("webroot".toList, expandWebroot), ("filename".toList, expandFilename),
    ("lineno".toList, expandLineno), ("offset".toList, expandOffset),
    ("basefilepos".toList, expandBasefilepos),
    ("register_form_token".toList, expandRegisterFormToken), ("msg".toList, expandMsg),
    ("confmsg".toList, expandConfmsg)]

/-- `hcv_initialize_templates`, on the dictionary found. -/
def initializeTemplates (dict : StdMap Text Builtin) : Except Failure (StdMap Text Builtin) :=
  builtins.foldlM (fun dict builtin => registerClosure dict builtin.1 builtin.2) dict

/-- The dictionary the server starts with. -/
def builtinDict : StdMap Text Builtin := StdMap.insertAll ∅ builtins

/-- `hcv_expand_processing_instruction` with the closures of `dict`. -/
def expandWith (dict : StdMap Text Builtin) (srv : Server) (tdata : TemplateData)
    (reading : Reading) (call : Call) : Except PageFailure Text :=
  match dispatch dict call.procinstr with
  | .error e => .error (.scan e)
  | .ok none => .ok []
  | .ok (some clos) => clos srv tdata reading call

/-- `hcv_expand_template_file` for the template data of a request, whose output
stream is empty at first. -/
def expandPage (srv : Server) (tdata : TemplateData) (env : Nat → Reading)
    (fs : Text → Option SourceFile) (srcfilepath : Text) : Except PageFailure Text :=
  expandTemplateFileWith .scan
    (fun position call => expandWith builtinDict srv tdata (env position) call) fs srcfilepath []

/-! ## The dictionary at startup -/

/-- Every builtin name passes the checks. -/
theorem checkName_builtins : ∀ builtin ∈ builtins, checkName builtin.1 = .ok () := by
  intro builtin hmem
  have hall : builtins.all (fun builtin => checkName builtin.1 == .ok ()) = true := by
    decide +kernel
  simpa using List.all_eq_true.mp hall builtin hmem

/-- Registrations of good names are insertions. -/
theorem foldlM_registerClosure {γ : Type*} {l : List (Text × γ)}
    (h : ∀ e ∈ l, checkName e.1 = .ok ()) (dict : StdMap Text γ) :
    l.foldlM (fun dict e => registerClosure dict e.1 e.2) dict =
      .ok (StdMap.insertAll dict l) := by
  induction l generalizing dict with
  | nil => rfl
  | cons e l ih =>
      have he : registerClosure dict e.1 e.2 = .ok (dict.insertIfNew e.1 e.2) := by
        rw [registerClosure, h e (by simp)]
        rfl
      rw [List.foldlM_cons, he]
      exact ih (fun e' he' => h e' (List.mem_cons_of_mem _ he')) _

theorem initializeTemplates_eq : initializeTemplates ∅ = .ok builtinDict :=
  foldlM_registerClosure checkName_builtins ∅

/-- A closure that can be called is one of those registered. -/
theorem mem_builtins_of_getElem? {name : Text} {clos : Builtin}
    (h : builtinDict[name]? = some clos) : (name, clos) ∈ builtins := by
  rcases StdMap.some_or_mem_of_getElem?_insertAll h with hempty | hin
  · exact absurd hempty (by simp)
  · exact hin

/-- The closure of a name is the one it is given first. -/
theorem getElem?_builtinDict (name : Text) :
    builtinDict[name]? = (builtins.find? fun builtin => builtin.1 = name).map Prod.snd := by
  rw [builtinDict, StdMap.getElem?_insertAll]
  simp

/-- What a closed processing instruction with the name of a closure writes. -/
theorem expandWith_instruction {name arg : Text} {clos : Builtin}
    (h : IsClosedInstruction name arg) (hlen : name.length ≤ templateNameMaxlen)
    (hfound : (builtins.find? fun builtin => builtin.1 = name).map Prod.snd = some clos)
    (srv : Server) (tdata : TemplateData) (reading : Reading) (filename : Text)
    (lineno offset : Nat) :
    expandWith builtinDict srv tdata reading ⟨instruction name arg, filename, lineno, offset⟩ =
      clos srv tdata reading ⟨instruction name arg, filename, lineno, offset⟩ := by
  have hdispatch := dispatch_markup builtinDict (isMarkup_instruction h)
  rw [markupName_instruction h, if_neg h.name_ne_nil, List.take_of_length_le hlen,
    getElem?_builtinDict, hfound] at hdispatch
  simp only [expandWith, hdispatch]

theorem mem_builtins_of_dispatch {procinstr : Text} {clos : Builtin}
    (h : dispatch builtinDict procinstr = .ok (some clos)) : ∃ name, (name, clos) ∈ builtins := by
  rcases getElem?_of_dispatch h with ⟨name, hname⟩
  exact ⟨name, mem_builtins_of_getElem? hname⟩

end HelpCovid.Template
