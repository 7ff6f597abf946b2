import HelpCovid.Lib.KeyFile
import HelpCovid.Template.Builtins

/-!
# Configured HTML

The closure of `html_config`, with the configuration it looks into. It asks the
`sscanf` for more than the one conversion that this has: `expandHtmlConfig_eq` justifies
the builtin closure, which writes nothing.
-/

namespace HelpCovid.Template

open CText ChunkMap

/-! ## The code -/

/-- `HCV_CONFIG_HTML_NAME_MAXLEN` -/
def configHtmlNameMaxlen : Nat := 60

/-- The loop that copies the name to `nambuf`, which holds `nbc` characters. -/
def copyConfigName (nbc : Nat) : Text → Option Text
  | [] => some []
  | c :: name =>
    if nbc ≥ configHtmlNameMaxlen then none
    else if !isNameChar c then none
    else (copyConfigName (nbc + 1) name).map (c :: ·)

/-- `"html"` -/
def htmlGroup : Text := "html".toList

/-- `hcv_get_config_html`. The characters are taken from a string that is gone by
then: `freed` is what they read as. -/
def getConfigHtml (freed : Text → Text) (kf : KeyFile) (name : Text) :
    Except KeyFileError Text :=
  if !startsAlpha name then .ok []
  else match copyConfigName 0 name with
    | none => .ok []
    | some nambuf =>
      -- `has_key` throws where there is no group
      if !kf.hasGroup htmlGroup then .error (.groupNotFound htmlGroup)
      else if !kf.hasKey htmlGroup nambuf then .ok []
      else do
        let ps ← kf.getString htmlGroup nambuf
        return cstr (freed ps)

/-- What the `sscanf` leaves: its result, and the two variables. -/
structure HtmlConfigScan where
  result : Int
  confname : Text
  endpos : Int
deriving Repr, DecidableEq

/-- `sscanf(procinstr, "<?hcv html_config %60[A-Za-z0-9_] ?>%n", confname, &endpos)`:
the result is the number of conversions, `%n` aside. -/
def scanHtmlConfig (procinstr : Text) : HtmlConfigScan :=
  let field := do
    let rest ← literal "<?hcv".toList procinstr
    let rest ← literal "html_config".toList (blanks rest)
    scanSet configHtmlNameMaxlen isNameChar (blanks rest)
  match field with
  | none => ⟨0, [], -1⟩
  | some (confname, rest) =>
    match literal closing (blanks rest) with
    | none => ⟨1, confname, -1⟩
    | some rest => ⟨1, confname, procinstr.length - rest.length⟩

/-- The closure of `html_config`. -/
def htmlConfig (freed : Text → Text) (kf : KeyFile) (procinstr : Text) :
    Except KeyFileError Text :=
  let scan := scanHtmlConfig (cstr procinstr)
  if scan.result ≤ 1 ∨ scan.endpos < procinstr.length then .ok []
  else getConfigHtml freed kf scan.confname

/-! ## What is asked for -/

/-- The keys: at most 60 letters, digits and underscores, the first a letter. -/
structure ConfigKey where
  name : Text
  first : startsAlpha name = true
  chars : ∀ c ∈ name, isNameChar c = true
  short : name.length ≤ configHtmlNameMaxlen

/-- `<?hcv html_config NAME?>` -/
def ConfigKey.markup (key : ConfigKey) : Text :=
  instruction "html_config".toList (' ' :: key.name)

/-- What is to be inserted: the value, and nothing for a key without one. -/
def ConfigKey.value (key : ConfigKey) (kf : KeyFile) : Text :=
  (kf.value? htmlGroup key.name).getD []

/-- The value is what the closure writes, and what is written for the markup
wherever it stands. -/
structure HtmlInserted (freed : Text → Text) (kf : KeyFile) (key : ConfigKey) : Prop where
  closure : htmlConfig freed kf key.markup = .ok (key.value kf)
  page : ∀ srv tdata reading filename lineno offset,
    expandWith builtinDict srv tdata reading ⟨key.markup, filename, lineno, offset⟩ =
      .ok (key.value kf)

/-! ## Nothing is written -/

theorem result_scanHtmlConfig (procinstr : Text) : (scanHtmlConfig procinstr).result ≤ 1 := by
  unfold scanHtmlConfig
  dsimp only
  split
  · exact Int.zero_le_ofNat 1
  · split
    · exact le_refl _
    · exact le_refl _

/-- No instruction has more than one conversion. -/
theorem htmlConfig_eq (freed : Text → Text) (kf : KeyFile) (procinstr : Text) :
    htmlConfig freed kf procinstr = .ok [] := by
  rw [htmlConfig, if_pos (Or.inl (result_scanHtmlConfig _))]

/-- The builtin closure is this one, with any configuration. -/
theorem expandHtmlConfig_eq (freed : Text → Text) (kf : KeyFile) (srv : Server)
    (tdata : TemplateData) (reading : Reading) (call : Call) (t : Text) :
    expandHtmlConfig srv tdata reading call = .ok t ↔
      htmlConfig freed kf call.procinstr = .ok t := by
  rw [htmlConfig_eq, expandHtmlConfig, verbatim, Except.ok.injEq, Except.ok.injEq]

/-! ## The names -/

namespace ConfigKey

variable (key : ConfigKey)

theorem isClosedInstruction : IsClosedInstruction "html_config".toList (' ' :: key.name) where
  name_ne_nil := by decide
  name_chars := List.all_eq_true.mp (by decide)
  maximal := by
    intro c hc
    obtain rfl : ' ' = c := by simpa using hc
    rfl
  noNul := by
    have hnul : '\x00' ∉ key.name := notMem_of_isNameChar key.chars (by decide)
    simp [hnul]
  closed := by
    have hmark : '?' ∉ ' ' :: key.name := by
      have hnot : '?' ∉ key.name := notMem_of_isNameChar key.chars (by decide)
      simp [hnot]
    rw [strstr_append_of_notMem (x := '?') _ rfl hmark]
    simp [closing, strstr_of_start]

/-- **Exactness.** Configured HTML is inserted exactly for the keys without a value
and for those with an empty one. -/
theorem htmlInserted_iff (freed : Text → Text) (kf : KeyFile) :
    HtmlInserted freed kf key ↔ ∀ v, kf.value? htmlGroup key.name = some v → v = [] := by
  have hpage : ∀ srv tdata reading filename lineno offset,
      expandWith builtinDict srv tdata reading ⟨key.markup, filename, lineno, offset⟩ = .ok [] :=
    fun srv tdata reading filename lineno offset =>
      expandWith_instruction key.isClosedInstruction (by decide) rfl srv tdata reading filename
        lineno offset
  constructor
  · intro h v hv
    have hclosure := h.closure
    rw [htmlConfig_eq, value, hv] at hclosure
    exact (Except.ok.inj hclosure).symm
  · intro h
    have hnothing : key.value kf = [] := by
      rw [value]
      cases hv : kf.value? htmlGroup key.name with
      | none => rfl
      | some v => exact h v hv
    exact ⟨by rw [htmlConfig_eq, hnothing], by rw [hnothing]; exact hpage⟩

end ConfigKey

/-- A key for a banner. -/
def bannerKey : ConfigKey where
  name := "banner".toList
  first := rfl
  chars := List.all_eq_true.mp (by decide)
  short := by decide

/-- The banner is not inserted. -/
theorem banner_missing :
    htmlConfig id (KeyFile.ofText "[html]\nbanner=<b>stay home</b>\n".toList)
        "<?hcv html_config banner?>".toList = .ok [] ∧
      ¬ HtmlInserted id (KeyFile.ofText "[html]\nbanner=<b>stay home</b>\n".toList) bannerKey := by
  refine ⟨htmlConfig_eq _ _ _, ?_⟩
  intro h
  have hclosure := h.closure
  rw [htmlConfig_eq] at hclosure
  exact absurd (Except.ok.inj hclosure) (by decide +kernel)

end HelpCovid.Template
