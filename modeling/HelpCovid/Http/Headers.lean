import HelpCovid.Http.Stream
import Mathlib.Data.List.DropRight

/-!
# Header fields on a connection

`read_headers` reads lines up to a blank one. A line without a carriage return is
skipped, and so is one that is no field; of a field the blanks around its value
are dropped. `write_headers` writes the fields of a response, in the order of their
keys, as C strings. Fields that a client writes are read back as they are
(`readHeaders_fields`), and what the server writes is one line for each field and
a blank line, whatever text the fields were set to (`readHeaders_setHeaders`): no
value ends its line early.
-/

namespace HelpCovid.Http

open CText Web

/-! ## Reading -/

def isBlank (c : Char) : Bool := c == ' ' || c == '\t'

/-- `stream_line_reader::end_with_crlf` -/
def endWithCrlf (line : Text) : Bool := ['\r', '\n'].isSuffixOf line

/-- What `.` of an expression matches. -/
def isDot (c : Char) : Bool := c != '\n' && c != '\r'

/-- What the expression `([^:]+):[\t ]*(.+)` makes of the line without its end and
the blanks before that. -/
def matchField (s : Text) : Option (Text × Text) :=
  let key := s.takeWhile (· != ':')
  let val := (s.drop (key.length + 1)).dropWhile isBlank
  if key ≠ [] ∧ val ≠ [] ∧ val.all isDot then some (key, val) else none

/-- The field of a line of the headers, if it is one. -/
def headerOfLine (line : Text) : Option (Text × Text) :=
  matchField ((line.take (line.length - 2)).rdropWhile isBlank)

/-- The loop of `detail::read_headers`, one round for each unit of fuel: whether it
came to a blank line, the headers and the connection. -/
def readHeadersFrom : (fuel : Nat) → Stream → Headers → Bool × Headers × Stream
  | 0, strm, headers => (false, headers, strm)
  | fuel + 1, strm, headers =>
      match strm.getline with
      | none => (false, headers, strm.drained)
      | some (line, strm) =>
          if endWithCrlf line then
            if line.length = 2 then (true, headers, strm)
            else readHeadersFrom fuel strm (headers ++ (headerOfLine line).toList)
          else readHeadersFrom fuel strm headers

/-- `detail::read_headers` -/
def readHeaders (strm : Stream) (headers : Headers) : Bool × Headers × Stream :=
  readHeadersFrom (strm.input.length + 1) strm headers

/-! ## Blocks of lines -/

def crlf : Text := ['\r', '\n']

/-- Lines with their ends, and the blank line. -/
def block (ls : List Text) : Text := ls.flatMap (· ++ crlf) ++ crlf

/-- A line that is not the end of a block. -/
def IsLine (l : Text) : Prop := l ≠ [] ∧ '\n' ∉ l

theorem block_cons (l : Text) (ls : List Text) : block (l :: ls) = l ++ crlf ++ block ls := by
  rw [block, List.flatMap_cons, List.append_assoc]
  rfl

theorem endWithCrlf_append (l : Text) : endWithCrlf (l ++ crlf) = true :=
  List.isSuffixOf_iff_suffix.mpr (List.suffix_append l crlf)

/-- A line is read with its end, whatever follows. -/
theorem getline_crlf {l : Text} (h : '\n' ∉ l) (rest : Text) (failing : Bool) :
    Stream.getline ⟨l ++ crlf ++ rest, failing⟩ = some (l ++ crlf, ⟨rest, failing⟩) := by
  have hsplit : l ++ crlf ++ rest = (l ++ ['\r']) ++ '\n' :: rest := by simp [crlf]
  have hline : l ++ crlf = (l ++ ['\r']) ++ ['\n'] := by simp [crlf]
  rw [hsplit, hline]
  exact Stream.getline_append (by simp [h]) rest failing

theorem readHeadersFrom_block {ls : List Text} (h : ∀ l ∈ ls, IsLine l) {fuel : Nat}
    (hfuel : ls.length < fuel) (rest : Text) (failing : Bool) (headers : Headers) :
    readHeadersFrom fuel ⟨block ls ++ rest, failing⟩ headers =
      (true, headers ++ ls.filterMap fun l => headerOfLine (l ++ crlf), ⟨rest, failing⟩) := by
  induction ls generalizing fuel headers with
  | nil =>
      rcases fuel with - | fuel
      · exact absurd hfuel (Nat.lt_irrefl _)
      · have hline := @getline_crlf [] List.not_mem_nil rest failing
        rw [readHeadersFrom]
        simp only [block, List.flatMap_nil, List.nil_append] at hline ⊢
        rw [hline]
        simp [crlf, endWithCrlf]
  | cons l ls ih =>
      rw [List.forall_mem_cons] at h
      rcases fuel with - | fuel
      · exact absurd hfuel (Nat.not_lt_zero _)
      · have hline := getline_crlf h.1.2 (block ls ++ rest) failing
        have hlength : (l ++ crlf).length ≠ 2 := by
          have hpos := List.length_pos_of_ne_nil h.1.1
          rw [List.length_append]
          simp only [crlf, List.length_cons, List.length_nil]
          omega
        rw [readHeadersFrom, block_cons, List.append_assoc (l ++ crlf), hline]
        simp only [endWithCrlf_append, if_true, if_neg hlength]
        rw [ih h.2 (Nat.lt_of_succ_lt_succ hfuel)]
        cases hfield : headerOfLine (l ++ crlf) <;> simp [hfield]

/-- A block is read to its end and no further; its fields are those of its lines. -/
theorem readHeaders_block {ls : List Text} (h : ∀ l ∈ ls, IsLine l) (rest : Text)
    (failing : Bool) (headers : Headers) :
    readHeaders ⟨block ls ++ rest, failing⟩ headers =
      (true, headers ++ ls.filterMap fun l => headerOfLine (l ++ crlf), ⟨rest, failing⟩) := by
  refine readHeadersFrom_block h ?_ rest failing headers
  have hle : ls.length ≤ (ls.flatMap (· ++ crlf)).length := by
    clear h
    induction ls with
    | nil => exact Nat.le_refl _
    | cons l ls ih =>
        rw [List.flatMap_cons, List.length_append, List.length_append, List.length_cons]
        simp only [crlf, List.length_cons, List.length_nil] at ih ⊢
        omega
  rw [List.length_append, block, List.length_append]
  omega

/-! ## Fields -/

/-- A field that is read as it is written: its key has no colon, and its value
neither starts nor ends with a blank. -/
structure IsField (h : Text × Text) : Prop where
  key_ne : h.1 ≠ []
  key_plain : ':' ∉ h.1 ∧ '\n' ∉ h.1
  value_ne : h.2 ≠ []
  value_dot : h.2.all isDot = true
  value_head : ∀ c ∈ h.2.head?, isBlank c = false
  value_last : ∀ c ∈ h.2.getLast?, isBlank c = false

/-- The line of a field, without its end. -/
def fieldLine (h : Text × Text) : Text := h.1 ++ ':' :: ' ' :: h.2

theorem rdropWhile_of_last {s : Text} (h : ∀ c ∈ s.getLast?, isBlank c = false) :
    s.rdropWhile isBlank = s := by
  rw [List.rdropWhile_eq_self_iff]
  intro hne hblank
  have hlast := h _ (List.getLast?_eq_some_getLast hne)
  rw [hlast] at hblank
  cases hblank

theorem headerOfLine_field {h : Text × Text} (hfield : IsField h) :
    headerOfLine (fieldLine h ++ crlf) = some h := by
  have htake : (fieldLine h ++ crlf).take ((fieldLine h ++ crlf).length - 2) = fieldLine h := by
    rw [List.length_append]
    exact List.take_left' rfl
  have hlast : ∀ c ∈ (fieldLine h).getLast?, isBlank c = false := by
    intro c hc
    refine hfield.value_last c ?_
    have hsplit : fieldLine h = (h.1 ++ [':', ' ']) ++ h.2 := by simp [fieldLine]
    rwa [hsplit, List.getLast?_append_of_ne_nil _ hfield.value_ne] at hc
  have hkey : (fieldLine h).takeWhile (· != ':') = h.1 := by
    rw [fieldLine, List.takeWhile_append_of_pos]
    · simp
    · intro c hc
      simpa using fun heq : c = ':' => hfield.key_plain.1 (heq ▸ hc)
  have hval : ((fieldLine h).drop (h.1.length + 1)).dropWhile isBlank = h.2 := by
    have hdrop : (fieldLine h).drop (h.1.length + 1) = ' ' :: h.2 := by
      rw [fieldLine, ← List.drop_drop, List.drop_left]
      rfl
    rw [hdrop, List.dropWhile_cons_of_pos (by rfl)]
    cases hsplit : h.2 with
    | nil => rfl
    | cons c v =>
        have hc := hfield.value_head c (by rw [hsplit]; rfl)
        rw [List.dropWhile_cons_of_neg (by simp [hc])]
  rw [headerOfLine, htake, rdropWhile_of_last hlast, matchField]
  simp only [hkey, hval]
  rw [if_pos ⟨hfield.key_ne, hfield.value_ne, hfield.value_dot⟩]

theorem isLine_field {h : Text × Text} (hfield : IsField h) : IsLine (fieldLine h) := by
  refine ⟨by simp [fieldLine], ?_⟩
  have hvalue : '\n' ∉ h.2 := fun hmem => by
    simpa [isDot] using List.all_eq_true.mp hfield.value_dot _ hmem
  simp [fieldLine, hfield.key_plain.2, hvalue]

/-- Fields are read back as they are, up to the blank line after them. -/
theorem readHeaders_fields {fields : Headers} (h : ∀ f ∈ fields, IsField f) (rest : Text)
    (failing : Bool) (headers : Headers) :
    readHeaders ⟨block (fields.map fieldLine) ++ rest, failing⟩ headers =
      (true, headers ++ fields, ⟨rest, failing⟩) := by
  rw [readHeaders_block (List.forall_mem_map.mpr fun f hf => isLine_field (h f hf)),
    List.filterMap_map]
  have hback : fields.filterMap ((fun l => headerOfLine (l ++ crlf)) ∘ fieldLine) = fields := by
    refine (List.filterMap_congr fun f hf => ?_).trans List.filterMap_some
    exact headerOfLine_field (h f hf)
  rw [hback]

/-! ## Writing -/

/-- `detail::ci`, the order of the keys. -/
def ciLess (a b : Text) : Bool := decide (a.map Char.toLower < b.map Char.toLower)

/-- The multimap in the order in which it is gone through. -/
def ordered (headers : Headers) : Headers := headers.mergeSort fun a b => !ciLess b.1 a.1

/-- `"%s: %s\r\n"` -/
def writtenLine (h : Text × Text) : Text := cstr h.1 ++ ": ".toList ++ cstr h.2

/-- `detail::write_headers`, with no headers but those of the response. -/
def writeHeaders (headers : Headers) : Text :=
  ((ordered headers).filter (·.1 ≠ "EXCEPTION_WHAT".toList)).flatMap (writtenLine · ++ crlf) ++ crlf

/-- The headers were set by `set_header`. -/
def Settable (headers : Headers) : Prop :=
  ∀ h ∈ headers, hasCrlf h.1 = false ∧ hasCrlf h.2 = false

theorem settable_setHeader {headers : Headers} (h : Settable headers) (key val : Text) :
    Settable (Web.setHeader key val headers) := by
  unfold Web.setHeader
  split
  · next hplain =>
      intro e he
      rcases List.mem_append.mp he with hold | hnew
      · exact h e hold
      · rw [List.mem_singleton.mp hnew]
        simpa using hplain
  · exact h

theorem isLine_writtenLine {h : Text × Text} (hkey : hasCrlf h.1 = false)
    (hval : hasCrlf h.2 = false) : IsLine (writtenLine h) := by
  have hplain : ∀ {s : Text}, hasCrlf s = false → '\n' ∉ cstr s := by
    intro s hs hmem
    have hnot := List.any_eq_false.mp hs _ hmem
    simp at hnot
  refine ⟨by simp [writtenLine], ?_⟩
  simp [writtenLine, hplain hkey, hplain hval]

theorem readHeaders_writeHeaders {headers : Headers} (h : Settable headers) (body : Text)
    (failing : Bool) :
    ∃ fields, readHeaders ⟨writeHeaders headers ++ body, failing⟩ [] =
        (true, fields, ⟨body, failing⟩) ∧ fields.length ≤ headers.length := by
  let written := (ordered headers).filter (·.1 ≠ "EXCEPTION_WHAT".toList)
  have hmem : ∀ e ∈ written, e ∈ headers := by
    intro e he
    exact (List.mergeSort_perm headers _).mem_iff.mp (List.mem_of_mem_filter he)
  have hlines : ∀ l ∈ written.map writtenLine, IsLine l := by
    refine List.forall_mem_map.mpr fun e he => ?_
    exact isLine_writtenLine (h e (hmem e he)).1 (h e (hmem e he)).2
  have hblock : writeHeaders headers = block (written.map writtenLine) := by
    rw [block, List.flatMap_map]
    rfl
  refine ⟨_, hblock ▸ readHeaders_block hlines body failing [], ?_⟩
  rw [List.nil_append]
  refine (List.length_filterMap_le _ _).trans ?_
  rw [List.length_map]
  refine (List.length_filter_le _ _).trans (Nat.le_of_eq ?_)
  exact List.length_mergeSort _

/-- The headers of a response after some calls of `set_header`. -/
def setHeaders (sets : List (Text × Text)) : Headers :=
  sets.foldl (fun headers e => Web.setHeader e.1 e.2 headers) []

theorem setHeaders_spec (sets : List (Text × Text)) :
    Settable (setHeaders sets) ∧ (setHeaders sets).length ≤ sets.length := by
  suffices hrun : ∀ headers, Settable headers →
      Settable (sets.foldl (fun headers e => Web.setHeader e.1 e.2 headers) headers) ∧
        (sets.foldl (fun headers e => Web.setHeader e.1 e.2 headers) headers).length ≤
          headers.length + sets.length by
    rcases hrun [] nofun with ⟨hsettable, hlength⟩
    exact ⟨hsettable, hlength.trans_eq (Nat.zero_add _)⟩
  induction sets with
  | nil => exact fun headers h => ⟨h, Nat.le_refl _⟩
  | cons e sets ih =>
      intro headers h
      rcases ih _ (settable_setHeader h e.1 e.2) with ⟨hsettable, hlength⟩
      refine ⟨hsettable, hlength.trans ?_⟩
      have hset : (Web.setHeader e.1 e.2 headers).length ≤ headers.length + 1 := by
        unfold Web.setHeader
        split <;> simp
      rw [List.length_cons]
      omega

/-- Whatever texts a handler sets headers to, what is written ends where a reader of
headers stops: it finds at most one field for each call, and all that follows is left. -/
theorem readHeaders_setHeaders (sets : List (Text × Text)) (body : Text) (failing : Bool) :
    ∃ fields, readHeaders ⟨writeHeaders (setHeaders sets) ++ body, failing⟩ [] =
        (true, fields, ⟨body, failing⟩) ∧ fields.length ≤ sets.length := by
  rcases setHeaders_spec sets with ⟨hsettable, hlength⟩
  rcases readHeaders_writeHeaders hsettable body failing with ⟨fields, hread, hfields⟩
  exact ⟨fields, hread, hfields.trans hlength⟩

end HelpCovid.Http
