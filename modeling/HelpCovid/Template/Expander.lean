import HelpCovid.Lib.CText
import HelpCovid.Lib.StdMap

/-!
# Registered expanders and processing instructions

The dictionary `hcv_template_expander_dict` of `hcv_template.cc` binds names to
closures; `hcv_expand_processing_instruction` reads the name of one
`<?hcv ...?>` markup, looks it up and runs the closure, which writes to the
output stream of the template data.

A closure reads more than its arguments: the HTTP request, the clock, random
numbers, the configuration. All of it is one value of a type `ε`, and a run is
given the reading in effect at each markup, `env : Nat → ε`, indexed by the
position of the markup in the file. So the same closure may write different
texts at two markups.
-/

namespace HelpCovid.Template

open CText

/-- The sites where the template code gives up: `HCV_FATALOUT` aborts the
process with a message about the data shown here. -/
inductive Fatal where
  | emptySourcePath
  | statFailure (path : Text)
  | notRegularFile (path : Text)
  | sourceTooBig (path : Text) (size : Nat)
  | corruptedInstruction (procinstr : Text)
  | invalidExpanderName (name : Text)
  | tooLongExpanderName (name : Text)
  | badExpanderName (name : Text)
deriving Repr, DecidableEq

/-- How a call can fail to return: a fatal error, or the `std::length_error` of
a string built with a negative length. `outOfFuel` is the model's own, for a
loop that is given too few turns. -/
inductive Failure where
  | fatal (at_ : Fatal)
  | lengthError
  | outOfFuel
deriving Repr, DecidableEq

/-- `HCV_TEMPLATE_NAME_MAXLEN` -/
def templateNameMaxlen : Nat := 64

/-- `hcv_max_template_size` -/
def maxTemplateSize : Nat := 128 * 1024

/-- The start of a markup, `"<?hcv "`. -/
def opening : Text := ['<', '?', 'h', 'c', 'v', ' ']

/-- The end of a markup, `"?>"`. -/
def closing : Text := ['?', '>']

theorem opening_ne_nil : opening ≠ [] := List.cons_ne_nil _ _

theorem closing_ne_nil : closing ≠ [] := List.cons_ne_nil _ _

/-- The arguments a closure is called with, the template data apart. -/
structure Call where
  procinstr : Text
  filename : Text
  lineno : Nat
  offset : Nat
deriving Repr, DecidableEq

/-- `hcv_template_expanding_closure_t`: the text written for a reading of the
environment and a call. -/
abbrev Expander (ε : Type*) := ε → Call → Text

/-- The checks of `hcv_register_template_expander_closure` on a name. -/
def checkName (name : Text) : Except Failure Unit :=
  match name.head? with
  | none => .error (.fatal (.invalidExpanderName name))
  | some c =>
      if !(c.isAlpha || c == '_') then .error (.fatal (.invalidExpanderName name))
      -- `strlen` stops at a NUL, which the next check then refuses
      else if (cstr name).length > templateNameMaxlen then
        .error (.fatal (.tooLongExpanderName name))
      else if name.any (fun c => !(c.isAlphanum || c == '_')) then
        .error (.fatal (.badExpanderName name))
      else .ok ()

/-- `hcv_template_expander_dict`: only names that passed the checks are bound. -/
structure ExpanderDict (ε : Type*) where
  entries : StdMap Text (Expander ε)
  checked : ∀ name ∈ entries, checkName name = .ok ()

namespace ExpanderDict

variable {ε : Type*}

def empty : ExpanderDict ε where
  entries := ∅
  checked := by simp

/-- `hcv_template_expander_dict.find` -/
def find (dict : ExpanderDict ε) (name : Text) : Option (Expander ε) := dict.entries[name]?

/-- `hcv_register_template_expander_closure`: `insert` keeps an earlier binding. -/
def register (dict : ExpanderDict ε) (name : Text) (expfun : Expander ε) :
    Except Failure (ExpanderDict ε) :=
  match h : checkName name with
  | .error e => .error e
  | .ok () => .ok
      { entries := dict.entries.insertIfNew name expfun
        checked := by
          intro m hm
          rcases (StdMap.mem_insertIfNew_iff _ _).mp hm with rfl | hm
          · exact h
          · exact dict.checked m hm }

/-- `hcv_forget_template_expander`: an unknown name is only logged. -/
def forget (dict : ExpanderDict ε) (name : Text) : ExpanderDict ε where
  entries := dict.entries.erase name
  checked := fun m hm => dict.checked m (Std.ExtTreeMap.mem_of_mem_erase hm)

end ExpanderDict

theorem length_le_of_checkName {name : Text} (h : checkName name = .ok ()) :
    name.length ≤ templateNameMaxlen := by
  unfold checkName at h
  split at h
  · simp at h
  · split at h
    · simp at h
    · split at h
      · simp at h
      · next hlen =>
          split at h
          · simp at h
          · next hany =>
              -- no character is NUL, so the C string is the whole name
              have hnul : '\x00' ∉ name := by
                intro hmem
                exact hany (List.any_eq_true.mpr ⟨_, hmem, by decide⟩)
              rw [cstr_of_notMem hnul] at hlen
              omega

/-- A name of more than 64 characters is never bound. -/
theorem ExpanderDict.find_eq_none_of_length {ε : Type*} (dict : ExpanderDict ε) {name : Text}
    (h : templateNameMaxlen < name.length) : dict.find name = none := by
  apply Std.ExtTreeMap.getElem?_eq_none
  intro hmem
  have := length_le_of_checkName (dict.checked name hmem)
  omega

/-! ## One processing instruction -/

/-- `sscanf(procstr, "<?hcv %64[a-zA-Z0-9_] %n", namebuf, &endpos)`: the name
and the text from `endpos` on. -/
def scanInstruction (procstr : Text) : Option (Text × Text) := do
  let rest ← literal ['<', '?', 'h', 'c', 'v'] procstr
  let (namebuf, rest) ← scanSet templateNameMaxlen isNameChar (blanks rest)
  return (namebuf, blanks rest)

variable {ε : Type*}

/-- `hcv_expand_processing_instruction`: what it writes to the template data.
An invalid instruction and an unknown name are logged and write nothing. -/
def expandProcessingInstruction (dict : ExpanderDict ε) (reading : ε) (call : Call) :
    Except Failure Text :=
  match scanInstruction (cstr call.procinstr) with
  | none => .ok []
  | some (namebuf, rest) =>
      match strstr closing rest with
      | none => .error (.fatal (.corruptedInstruction call.procinstr))
      | some endpi =>
          -- `endpi[2]` is not the end of the string
          if rest.length ≠ endpi + closing.length then
            .error (.fatal (.corruptedInstruction call.procinstr))
          else match dict.find namebuf with
            | none => .ok []
            | some clos => .ok (clos reading call)

/-- What the code writes at a markup: the expander bound to the first 64
characters of its name, if any. -/
def written (dict : ExpanderDict ε) (reading : ε) (call : Call) : Text :=
  match scanInstruction call.procinstr with
  | none => []
  | some (namebuf, _) => ((dict.find namebuf).map fun clos => clos reading call).getD []

end HelpCovid.Template
