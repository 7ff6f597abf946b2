import HelpCovid.Lib.CText

/-!
# The plugin option

`--plugin=NAME:ARG` is read by two calls of `sscanf` that share a buffer and a
position; `hcv_load_plugin` then opens the library of the name. What the file
system and the dynamic loader find at a path is a parameter.

The position that the first call leaves behind is taken for the end of a colon
that the second one did not see, and a colon after a name of one character is
not believed.
-/

namespace HelpCovid.Startup

open CText

/-! ## Loading -/

/-- The sites where the option and `hcv_load_plugin` give up. -/
inductive PluginFatal where
  | badOption (arg : Text)
  | missingName
  | tooLongName (name : Text)
  | invalidName (name : Text)
  | duplicatePlugin (name : Text)
  | dlopenFailure (name path : Text)
  | noSymbol (name path symbol : Text)
  | unexpectedName (name plgname : Text)
deriving Repr, DecidableEq

/-- What `dlsym` finds in a library; of the two initializers it matters here whether
they are there. -/
structure Library where
  hcvpluginName : Option Text
  gplCompatibleLicense : Option Text
  gitapi : Option Text
  version : Option Text
  initializeWeb : Bool
  initializeDatabase : Bool
deriving Repr, DecidableEq

/-- The files and the dynamic loader. -/
structure Loader where
  /-- the file can be read and has the header of a shared library for 64 bits -/
  isSharedElf : Text → Bool
  dlopen : Text → Option Library

/-- `Hcv_plugin`, without its handle and its functions. -/
structure Plugin where
  name : Text
  /-- the argument, `none` for a null pointer -/
  arg : Option Text
  gitid : Text
  license : Text
  hasDatabaseInit : Bool
deriving Repr, DecidableEq

/-- `HCV_PLUGIN_NAME_MAXLEN` -/
def pluginNameMaxlen : Nat := 48

/-- `sobuf`: `HCV_PLUGIN_PREFIX`, the name and `HCV_PLUGIN_SUFFIX`, in its 96 bytes. -/
def sobuf (pluginName : Text) : Text :=
  ("hcvplugin_".toList ++ pluginName ++ ".so".toList).take (pluginNameMaxlen + 48 - 1)

/-- The path that is given to `dlopen`. -/
def pluginPath (ld : Loader) (pluginName : Text) : Text :=
  let so := sobuf pluginName
  if '/' ∉ so ∧ so.length < pluginNameMaxlen + 48 - 4 ∧ ld.isSharedElf so then "./".toList ++ so
  else so

/-- A symbol that has to be there. -/
def requireSymbol {α : Type} (pluginName path symbol : Text) : Option α → Except PluginFatal α
  | none => .error (.noSymbol pluginName path symbol)
  | some a => .ok a

section Load

variable (ld : Loader) (loaded : List Plugin)

/-- `hcv_load_plugin` after the checks of the name; the result is
`hcv_plugin_vect`. -/
def openPlugin (pluginName : Text) (pluginArg : Option Text) : Except PluginFatal (List Plugin) := do
  if loaded.any fun pl => pl.name == pluginName then throw (.duplicatePlugin pluginName)
  let path := pluginPath ld pluginName
  match ld.dlopen path with
  | none => throw (.dlopenFailure pluginName path)
  | some dlh =>
    let plgname ← requireSymbol pluginName path "hcvplugin_name".toList dlh.hcvpluginName
    if plgname != pluginName then throw (.unexpectedName pluginName plgname)
    let plglicense ← requireSymbol pluginName path "hcvplugin_gpl_compatible_license".toList
      dlh.gplCompatibleLicense
    let plgapi ← requireSymbol pluginName path "hcvplugin_gitapi".toList dlh.gitapi
    let _plgversion ← requireSymbol pluginName path "hcvplugin_version".toList dlh.version
    if !dlh.initializeWeb then
      throw (.noSymbol pluginName path "hcvplugin_initialize_web".toList)
    return loaded ++ [⟨pluginName, pluginArg, plgapi, plglicense, dlh.initializeDatabase⟩]

/-- `hcv_load_plugin` -/
def loadPlugin (pluginName : Text) (pluginArg : Option Text) :
    Except PluginFatal (List Plugin) :=
  if pluginName.isEmpty then .error .missingName
  else if pluginName.length > pluginNameMaxlen then .error (.tooLongName pluginName)
  else if pluginName.any fun c => !c.isAlphanum && c != '_' then .error (.invalidName pluginName)
  else openPlugin ld loaded pluginName pluginArg

/-- `sscanf(arg, "%60[A-Za-z0-9_]:%n", plugnambuf, &endp)`: the name, and the position
after the colon, if there is a colon. -/
def scanNameColon (arg : Text) : Option (Text × Option Nat) := do
  let (plugnambuf, rest) ← scanSet 60 isNameChar arg
  return (plugnambuf, (literal [':'] rest).map fun _ => plugnambuf.length + 1)

/-- The case `HCVPROGOPT_PLUGIN` of `hcv_parse1opt`. -/
def parsePlugin (arg : Text) : Except PluginFatal (List Plugin) :=
  match scanSet 60 isNameChar arg with
  | none => .error (.badOption arg)
  | some (plugnambuf, _) =>
    let endp := plugnambuf.length
    match scanNameColon arg with
    | none => loadPlugin ld loaded plugnambuf none
    | some (plugnambuf, colon) =>
      -- without a colon the position of the first call is still there
      let endp := colon.getD endp
      loadPlugin ld loaded plugnambuf (if endp > 2 then some (arg.drop endp) else none)

end Load

/-! ## What is asked for -/

/-- The names of plugins. -/
structure IsPluginName (name : Text) : Prop where
  ne_nil : name ≠ []
  chars : ∀ c ∈ name, isNameChar c = true
  short : name.length ≤ pluginNameMaxlen

/-- `NAME` loads the plugin without argument, `NAME:ARG` loads it with the argument,
and anything else ends the program, whatever libraries there are. -/
structure PluginOptionCorrect (arg : Text) : Prop where
  plain : IsPluginName arg →
    ∀ ld loaded, parsePlugin ld loaded arg = openPlugin ld loaded arg none
  withArg : ∀ name plugarg, arg = name ++ ':' :: plugarg → IsPluginName name →
    ∀ ld loaded, parsePlugin ld loaded arg = openPlugin ld loaded name (some plugarg)
  other : ¬ IsPluginName arg →
    (∀ name plugarg, arg = name ++ ':' :: plugarg → ¬ IsPluginName name) →
      ∀ ld loaded, ∃ e, parsePlugin ld loaded arg = .error e

/-- No name or a long one; a name of one or two characters alone; or a name of two
characters or more before a colon. -/
def PluginOptionHonest (arg : Text) : Prop :=
  let name := arg.takeWhile isNameChar
  let rest := arg.dropWhile isNameChar
  name = [] ∨ pluginNameMaxlen < name.length ∨ (rest = [] ∧ name.length ≤ 2) ∨
    (rest.head? = some ':' ∧ 2 ≤ name.length)

instance (arg : Text) : Decidable (PluginOptionHonest arg) := by
  unfold PluginOptionHonest
  infer_instance

/-! ## The scan of the option -/

section Scan

variable {ld : Loader} {loaded : List Plugin}

theorem loadPlugin_of_isPluginName {name : Text} (h : IsPluginName name) (arg : Option Text) :
    loadPlugin ld loaded name arg = openPlugin ld loaded name arg := by
  have hempty : ¬ name.isEmpty = true := by simpa using h.ne_nil
  have hlong : ¬ name.length > pluginNameMaxlen := by
    have hshort := h.short
    omega
  have hany : ¬ (name.any fun c => !c.isAlphanum && c != '_') = true := by
    rw [List.any_eq_true]
    rintro ⟨c, hc, hbad⟩
    have hgood := h.chars c hc
    simp only [isNameChar, Bool.or_eq_true, beq_iff_eq] at hgood
    simp only [Bool.and_eq_true, Bool.not_eq_true', bne_iff_ne, ne_eq] at hbad
    rcases hgood with halnum | hunderscore
    · rw [halnum] at hbad
      exact absurd hbad.1 (by decide)
    · exact hbad.2 hunderscore
  rw [loadPlugin, if_neg hempty, if_neg hlong, if_neg hany]

theorem loadPlugin_of_long {name : Text} (h : pluginNameMaxlen < name.length)
    (arg : Option Text) : loadPlugin ld loaded name arg = .error (.tooLongName name) := by
  have hempty : ¬ name.isEmpty = true := by
    rw [List.isEmpty_iff]
    rintro rfl
    exact absurd h (Nat.not_lt_zero _)
  rw [loadPlugin, if_neg hempty, if_pos h]

/-- Without a character of a name nothing is loaded. -/
theorem parsePlugin_of_nil {arg : Text} (h : arg.takeWhile isNameChar = []) :
    parsePlugin ld loaded arg = .error (.badOption arg) := by
  have hscan : scanSet 60 isNameChar arg = none := by
    rw [scanSet_eq, h]
    rfl
  rw [parsePlugin, hscan]

/-- A long name is refused, cut to 60 characters or not. -/
theorem parsePlugin_of_long {arg : Text} (h : pluginNameMaxlen < (arg.takeWhile isNameChar).length) :
    ∃ e, parsePlugin ld loaded arg = .error e := by
  have hlong : pluginNameMaxlen < ((arg.takeWhile isNameChar).take 60).length := by
    rw [List.length_take]
    exact lt_min (by decide) h
  have hne : (arg.takeWhile isNameChar).take 60 ≠ [] := by
    intro hnil
    rw [hnil] at hlong
    exact absurd hlong (Nat.not_lt_zero _)
  have hscan := scanSet_eq 60 isNameChar arg
  rw [if_neg hne] at hscan
  refine ⟨.tooLongName ((arg.takeWhile isNameChar).take 60), ?_⟩
  simp only [parsePlugin, scanNameColon, hscan, Option.bind_eq_bind, Option.bind_some,
    Option.pure_def]
  exact loadPlugin_of_long hlong _

/-- What a name of a plugin leads to. -/
theorem parsePlugin_of_name {name rest : Text} (hname : IsPluginName name)
    (hrest : ∀ c ∈ rest.head?, ¬ isNameChar c) :
    parsePlugin ld loaded (name ++ rest) =
      openPlugin ld loaded name
        (if rest.head? = some ':' then
          if 2 ≤ name.length then some rest.tail else none
        else if 3 ≤ name.length then some rest else none) := by
  have hshort := hname.short
  have hscan : scanSet 60 isNameChar (name ++ rest) = some (name, rest) :=
    scanSet_append rest hname.ne_nil hname.chars (hshort.trans (by decide)) (Or.inr hrest)
  rw [← loadPlugin_of_isPluginName hname]
  simp only [parsePlugin, scanNameColon, hscan, Option.bind_eq_bind, Option.bind_some,
    Option.pure_def]
  cases rest with
  | nil => simp [literal, Nat.succ_le_iff]
  | cons c rest =>
    by_cases hc : c = ':'
    · subst hc
      have hdrop : (name ++ ':' :: rest).drop (name.length + 1) = rest :=
        List.drop_length_add_append ..
      have hpos : 2 < name.length + 1 ↔ 2 ≤ name.length := by omega
      simp only [literal, List.isPrefixOf, beq_self_eq_true, Bool.and_self, if_true,
        Option.map_some, Option.getD_some, hdrop, hpos, List.head?_cons, List.tail_cons]
    · have hne : ¬ ':' = c := fun h => hc h.symm
      simp [literal, hc, hne, Nat.succ_le_iff]

/-- A library under the name, whatever the path. -/
def libraryOf (name : Text) : Loader :=
  ⟨fun _ => false, fun _ => some ⟨some name, some [], some [], some [], true, false⟩⟩

theorem openPlugin_libraryOf (name : Text) (arg : Option Text) :
    openPlugin (libraryOf name) [] name arg = .ok [⟨name, arg, [], [], false⟩] := by
  simp [openPlugin, libraryOf, requireSymbol, bind, Except.bind, pure, Except.pure]

/-- The argument that is passed can be seen. -/
theorem openPlugin_inj {name : Text} {arg arg' : Option Text}
    (h : ∀ ld loaded, openPlugin ld loaded name arg = openPlugin ld loaded name arg') :
    arg = arg' := by
  have heq := h (libraryOf name) []
  rw [openPlugin_libraryOf, openPlugin_libraryOf] at heq
  simpa using heq

/-- The name of an option and what follows it. -/
theorem takeWhile_name {name rest : Text} (hname : IsPluginName name)
    (hrest : ∀ c ∈ rest.head?, ¬ isNameChar c) :
    (name ++ rest).takeWhile isNameChar = name ∧ (name ++ rest).dropWhile isNameChar = rest := by
  rw [List.takeWhile_append_of_pos hname.chars, List.dropWhile_append_of_pos hname.chars]
  cases rest with
  | nil => simp
  | cons c rest =>
    have hc := hrest c rfl
    simp [hc]

theorem takeWhile_name_colon {name : Text} (hname : IsPluginName name) (plugarg : Text) :
    (name ++ ':' :: plugarg).takeWhile isNameChar = name ∧
      (name ++ ':' :: plugarg).dropWhile isNameChar = ':' :: plugarg := by
  apply takeWhile_name hname
  intro c hc
  obtain rfl : ':' = c := Option.some.inj hc
  decide

end Scan

/-- An option whose name is empty or long is no name and has none before a colon. -/
theorem not_isPluginName_of_takeWhile {arg : Text}
    (h : ¬ IsPluginName (arg.takeWhile isNameChar)) :
    ¬ IsPluginName arg ∧ ∀ name plugarg, arg = name ++ ':' :: plugarg → ¬ IsPluginName name := by
  constructor
  · intro harg
    rw [List.takeWhile_eq_self_iff.mpr harg.chars] at h
    exact h harg
  · rintro name plugarg rfl hname
    rw [(takeWhile_name hname (by simp [isNameChar, Char.isAlphanum])).1] at h
    exact h hname

/-- Without a name of the right length the option is refused, as it should be. -/
theorem pluginOptionCorrect_of_not_name {arg : Text}
    (h : ¬ IsPluginName (arg.takeWhile isNameChar)) : PluginOptionCorrect arg := by
  rcases not_isPluginName_of_takeWhile h with ⟨hplain, hwith⟩
  refine ⟨fun harg => absurd harg hplain, fun name plugarg heq hname => ?_, fun _ _ ld loaded => ?_⟩
  · exact absurd hname (hwith name plugarg heq)
  · by_cases hnil : arg.takeWhile isNameChar = []
    · exact ⟨_, parsePlugin_of_nil hnil⟩
    · apply parsePlugin_of_long
      by_contra hshort
      exact h ⟨hnil, fun c hc => List.mem_takeWhile_imp hc, by omega⟩

/-- A name alone is given the empty text behind it when it has three characters. -/
theorem pluginOptionCorrect_plain_iff {name : Text} (hname : IsPluginName name) :
    PluginOptionCorrect name ↔ name.length ≤ 2 := by
  have hparse : ∀ ld loaded, parsePlugin ld loaded name =
      openPlugin ld loaded name (if 3 ≤ name.length then some [] else none) := by
    intro ld loaded
    have hrun := @parsePlugin_of_name ld loaded name [] hname (by simp)
    simpa using hrun
  constructor
  · intro hcorrect
    have harg := openPlugin_inj fun ld loaded =>
      (hparse ld loaded).symm.trans (hcorrect.plain hname ld loaded)
    by_contra hlong
    rw [if_pos (by omega)] at harg
    exact absurd harg (by simp)
  · intro hshort
    refine ⟨fun _ ld loaded => ?_, fun other plugarg heq _ => ?_, fun hnot => absurd hname hnot⟩
    · rw [hparse, if_neg (by omega)]
    · -- a colon is no character of a name
      have hcolon := hname.chars ':' (heq ▸ by simp)
      exact absurd hcolon (by decide)

/-- A colon is seen after two characters. -/
theorem pluginOptionCorrect_withArg_iff {name : Text} (hname : IsPluginName name)
    (plugarg : Text) : PluginOptionCorrect (name ++ ':' :: plugarg) ↔ 2 ≤ name.length := by
  have hcolon : ∀ c ∈ (':' :: plugarg).head?, ¬ isNameChar c := by
    simp [isNameChar, Char.isAlphanum]
  have hparse : ∀ ld loaded, parsePlugin ld loaded (name ++ ':' :: plugarg) =
      openPlugin ld loaded name (if 2 ≤ name.length then some plugarg else none) := by
    intro ld loaded
    have hrun := @parsePlugin_of_name ld loaded name _ hname hcolon
    simpa using hrun
  have hnot : ¬ IsPluginName (name ++ ':' :: plugarg) :=
    fun h => absurd (h.chars ':' (by simp)) (by decide)
  constructor
  · intro hcorrect
    have harg := openPlugin_inj fun ld loaded =>
      (hparse ld loaded).symm.trans (hcorrect.withArg name plugarg rfl hname ld loaded)
    by_contra hshort
    rw [if_neg hshort] at harg
    exact absurd harg (by simp)
  · intro hlong
    refine ⟨fun h => absurd h hnot, fun other otherarg heq hother ld loaded => ?_,
      fun _ hnone => absurd hname (hnone name plugarg rfl)⟩
    -- the name before the first colon is the only one
    have hname' := (takeWhile_name hname hcolon).1
    have hsplit := takeWhile_name_colon hother otherarg
    rw [← heq] at hsplit
    have hsame : name = other := hname'.symm.trans hsplit.1
    have hdrop := (takeWhile_name hname hcolon).2.symm.trans hsplit.2
    rw [hparse, if_pos hlong, hsame, (List.cons.inj hdrop).2]

/-- Anything else behind the name is passed on or dropped, and the plugin loaded. -/
theorem not_pluginOptionCorrect_of_junk {name rest : Text} {c : Char} (hname : IsPluginName name)
    (hc : isNameChar c = false) (hcolon : c ≠ ':') : ¬ PluginOptionCorrect (name ++ c :: rest) := by
  have hend : ∀ d ∈ (c :: rest).head?, ¬ isNameChar d := by simp [hc]
  intro hcorrect
  have htake := takeWhile_name hname hend
  have hplain : ¬ IsPluginName (name ++ c :: rest) :=
    fun h => absurd (h.chars c (by simp)) (by simp [hc])
  have hwith : ∀ other plugarg, name ++ c :: rest = other ++ ':' :: plugarg →
      ¬ IsPluginName other := by
    intro other plugarg heq hother
    have hsplit := takeWhile_name_colon hother plugarg
    rw [← heq] at hsplit
    exact hcolon (List.cons.inj (htake.2.symm.trans hsplit.2)).1
  rcases hcorrect.other hplain hwith (libraryOf name) [] with ⟨e, he⟩
  rw [parsePlugin_of_name hname hend, openPlugin_libraryOf] at he
  cases he

/-- **Exactness.** The option is split as it should be exactly when its name is
empty or too long, or is alone with at most two characters, or is before a colon
with at least two. -/
theorem pluginOptionCorrect_iff (arg : Text) :
    PluginOptionCorrect arg ↔ PluginOptionHonest arg := by
  have hsplit : arg = arg.takeWhile isNameChar ++ arg.dropWhile isNameChar :=
    List.takeWhile_append_dropWhile.symm
  by_cases hname : IsPluginName (arg.takeWhile isNameChar)
  · have hshort := hname.short
    have hne := hname.ne_nil
    have hhead := List.head?_dropWhile_not isNameChar arg
    unfold PluginOptionHonest
    generalize arg.takeWhile isNameChar = name at *
    generalize arg.dropWhile isNameChar = rest at *
    subst hsplit
    cases rest with
    | nil =>
      rw [List.append_nil, pluginOptionCorrect_plain_iff hname]
      simp [hne, Nat.not_lt.mpr hshort]
    | cons c rest =>
      have hc : isNameChar c = false := by simpa using hhead
      by_cases hcolon : c = ':'
      · rw [hcolon, pluginOptionCorrect_withArg_iff hname]
        simp [hne, Nat.not_lt.mpr hshort]
      · refine iff_of_false (not_pluginOptionCorrect_of_junk hname hc hcolon) ?_
        simp [hne, Nat.not_lt.mpr hshort, hcolon]
  · refine iff_of_true (pluginOptionCorrect_of_not_name hname) ?_
    by_cases hnil : arg.takeWhile isNameChar = []
    · exact Or.inl hnil
    · refine Or.inr (Or.inl ?_)
      by_contra hshort
      exact hname ⟨hnil, fun c hc => List.mem_takeWhile_imp hc, by omega⟩

/-- The option of the documentation without its argument, and with a slip. -/
theorem parsePlugin_echo :
    (∀ ld loaded, parsePlugin ld loaded "echo".toList =
      openPlugin ld loaded "echo".toList (some [])) ∧
      ¬ PluginOptionCorrect "echo".toList ∧ ¬ PluginOptionCorrect "echo/foo".toList := by
  have hname : IsPluginName "echo".toList :=
    ⟨by decide, List.all_eq_true.mp (by decide), by decide⟩
  refine ⟨fun ld loaded => ?_, ?_, ?_⟩
  · exact @parsePlugin_of_name ld loaded "echo".toList [] hname (by simp)
  · rw [pluginOptionCorrect_plain_iff hname]
    decide
  · exact @not_pluginOptionCorrect_of_junk "echo".toList "foo".toList '/' hname rfl (by decide)

end HelpCovid.Startup
