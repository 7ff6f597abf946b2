import HelpCovid.Lib.Decimal

/-!
# Key files

What a program sees of a `Glib::KeyFile`: groups of keys with values. A getter
throws where there is no such group or key. `Reads` says what a key file loaded
from a text of `[group]` and `key=value` lines is relied on for; `ofText` is one
that does it.
-/

/-- The groups of a key file; a group gives values to keys. -/
abbrev KeyFile := Text → Option (Text → Option Text)

/-- `Glib::KeyFileError` -/
inductive KeyFileError where
  | groupNotFound (group : Text)
  | keyNotFound (group key : Text)
  | invalidValue (group key : Text)
deriving Repr, DecidableEq

namespace KeyFile

/-- The value of a key, if there is one. -/
def value? (kf : KeyFile) (group key : Text) : Option Text := (kf group).bind fun g => g key

/-- `has_group` -/
def hasGroup (kf : KeyFile) (group : Text) : Bool := (kf group).isSome

/-- `has_key`, for a group that is there. -/
def hasKey (kf : KeyFile) (group key : Text) : Bool := (kf.value? group key).isSome

/-- `get_string` -/
def getString (kf : KeyFile) (group key : Text) : Except KeyFileError Text :=
  match kf group with
  | none => .error (.groupNotFound group)
  | some g =>
      match g key with
      | none => .error (.keyNotFound group key)
      | some v => .ok v

/-- `get_int64`: the whole value is a number. -/
def getInt64 (kf : KeyFile) (group key : Text) : Except KeyFileError Int := do
  let v ← kf.getString group key
  match CText.strtol v with
  | some (n, []) => .ok n
  | _ => .error (.invalidValue group key)

variable {kf : KeyFile} {group key : Text}

theorem hasGroup_of_value? {v : Text} (h : kf.value? group key = some v) :
    kf.hasGroup group = true := by
  rcases Option.bind_eq_some_iff.mp h with ⟨g, hg, -⟩
  simp [hasGroup, hg]

theorem hasKey_of_value? {v : Text} (h : kf.value? group key = some v) :
    kf.hasKey group key = true := by
  simp [hasKey, h]

theorem hasKey_of_value?_none (h : kf.value? group key = none) : kf.hasKey group key = false := by
  simp [hasKey, h]

theorem getString_of_value? {v : Text} (h : kf.value? group key = some v) :
    kf.getString group key = .ok v := by
  rcases Option.bind_eq_some_iff.mp h with ⟨g, hg, hv⟩
  simp [getString, hg, hv]

theorem getInt64_of_value? {v : Text} (h : kf.value? group key = some v) :
    kf.getInt64 group key =
      match CText.strtol v with
      | some (n, []) => .ok n
      | _ => .error (.invalidValue group key) := by
  rw [getInt64, getString_of_value? h]
  rfl

/-! ## The text of a key file -/

/-- A line `[group]`. -/
def header? (line : Text) : Option Text :=
  if line.head? = some '[' ∧ line.getLast? = some ']' then some (line.drop 1).dropLast else none

/-- A line `key=value`, which is not a comment. -/
def pair? (line : Text) : Option (Text × Text) :=
  if line.head? = some '#' ∨ '=' ∉ line then none
  else some (line.takeWhile (· != '='), (line.dropWhile (· != '=')).drop 1)

/-- The groups of a text, in their order. -/
def groups (text : Text) : List Text := (CText.lines text).filterMap header?

/-- The keys and values of the lines, each with the group it is in. -/
def entriesFrom : Option Text → List Text → List (Text × Text × Text)
  | _, [] => []
  | current, line :: lines =>
      match header? line with
      | some group => entriesFrom (some group) lines
      | none =>
          let entry := current.bind fun group => (pair? line).map fun entry => (group, entry)
          entry.toList ++ entriesFrom current lines

def entries (text : Text) : List (Text × Text × Text) := entriesFrom none (CText.lines text)

/-- The values of the lines for a key of a group. -/
def values (text group key : Text) : List Text :=
  ((entries text).filter fun e => e.1 = group ∧ e.2.1 = key).map fun e => e.2.2

/-- The key file holds what stands in the text: a group that has a line, and the
value of a key that has one line in the group. -/
structure Reads (kf : KeyFile) (text : Text) : Prop where
  hasGroup : ∀ group, kf.hasGroup group = true ↔ group ∈ groups text
  value : ∀ group key v, values text group key = [v] → kf.value? group key = some v
  noValue : ∀ group key, values text group key = [] → kf.value? group key = none

/-- A key file that reads a text, the last line of a key counting. -/
def ofText (text : Text) : KeyFile := fun group =>
  if group ∈ groups text then some fun key => (values text group key).getLast? else none

theorem mem_of_entriesFrom {current : Option Text} {lines : List Text} {e : Text × Text × Text}
    (h : e ∈ entriesFrom current lines) : current = some e.1 ∨ e.1 ∈ lines.filterMap header? := by
  induction lines generalizing current with
  | nil => cases h
  | cons line lines ih =>
      rw [entriesFrom] at h
      cases hheader : header? line with
      | some group =>
          rw [hheader] at h
          rw [List.filterMap_cons_some hheader]
          rcases ih h with hgroup | hmem
          · exact .inr (Option.some.inj hgroup ▸ List.mem_cons_self)
          · exact .inr (List.mem_cons_of_mem _ hmem)
      | none =>
          rw [hheader] at h
          rw [List.filterMap_cons_none hheader]
          rcases List.mem_append.mp h with h | h
          · rcases Option.bind_eq_some_iff.mp (Option.mem_toList.mp h) with ⟨group, hcurrent, h⟩
            rcases Option.map_eq_some_iff.mp h with ⟨entry, -, rfl⟩
            exact .inl hcurrent
          · exact ih h

theorem reads_ofText (text : Text) : (ofText text).Reads text where
  hasGroup group := by
    unfold hasGroup ofText
    split <;> simp_all
  value group key v h := by
    have hmem : group ∈ groups text := by
      have hv : v ∈ values text group key := by simp [h]
      rcases List.mem_map.mp hv with ⟨e, he, -⟩
      rcases List.mem_filter.mp he with ⟨he, hcond⟩
      simp only [decide_eq_true_eq] at hcond
      rcases mem_of_entriesFrom he with hnone | hmem
      · cases hnone
      · exact hcond.1 ▸ hmem
    simp [value?, ofText, hmem, h]
  noValue group key h := by
    unfold value? ofText
    split <;> simp [h]

end KeyFile
