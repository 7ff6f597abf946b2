import HelpCovid.ChunkMap.Names
import HelpCovid.ChunkMap.RoundTrip

/-!
# Files without chunks of several lines

What the parser accepts when no line opens a chunk of several lines: empty lines,
blank lines, comments and lines `!NAME'BODY`, and what the map then binds. A name
is a letter and at most 59 letters, digits or underscores after it.
-/

namespace HelpCovid.ChunkMap

open CText

/-! ## The grammar -/

/-- `!NAME'BODY` -/
structure Binds (l name body : Text) : Prop where
  isName : IsChunkName name
  line_eq : l = '!' :: (name ++ '\'' :: body)

/-- `!NAME"LABEL(` at the start of a line. -/
def OpensChunk (l : Text) : Prop :=
  ∃ name label rest, IsChunkName name ∧ isIdent label = true ∧ label.length ≤ 30 ∧
    l = '!' :: (name ++ '"' :: (label ++ '(' :: rest))

/-- The lines that mean something, or nothing, outside of chunks. -/
def Accepted (l : Text) : Prop :=
  l = [] ∨ (∀ c ∈ l, isSpace c = true) ∨ l.head? = some '#' ∨ ∃ name body, Binds l name body

/-- The first line that binds the name binds it to the body. -/
def FirstBinds (ls : List Text) (name body : Text) : Prop :=
  ∃ front l back, ls = front ++ l :: back ∧ Binds l name body ∧
    ∀ l' ∈ front, ∀ body', ¬ Binds l' name body'

/-- Neither limit of the parser stops a line; the limits are on the number of a
line and on its offset. -/
structure InLimits (lincnt off : Nat) (ls : List Text) : Prop where
  count : lincnt + ls.length ≤ maxChunkmapLinelen
  offsets : ∀ front l back, ls = front ++ l :: back →
    off + (unlines front).length ≤ maxChunkmapSize

/-! ## One line -/

/-- The first character of a name is a letter. -/
theorem startsHeader_of_name {name : Text} (h : IsChunkName name) (c : Char) (rest : Text) :
    startsHeader ('!' :: (name ++ c :: rest)) = true :=
  startsHeader_ident (⟨name, h.ident, h.short⟩ : ChunkName) c rest

/-- The header of a line that binds a name is read. -/
theorem scan_of_binds {l name body : Text} (h : Binds l name body) :
    startsHeader l = true ∧ scanSingleHeader l = some (name, body) := by
  rcases h with ⟨hname, rfl⟩
  refine ⟨startsHeader_of_name hname _ _, ?_⟩
  have hbang : literal ['!'] ('!' :: (name ++ '\'' :: body)) = some (name ++ '\'' :: body) :=
    literal_append ['!'] _
  have hquote : literal ['\''] ('\'' :: body) = some body := literal_append ['\''] body
  have hscan := (⟨name, hname.ident, hname.short⟩ : ChunkName).scanSet_append '\'' body (by decide)
  simp only [scanSingleHeader, hbang, hscan, hquote, Option.bind_eq_bind, Option.bind_some]
  rfl

/-- What is read as such a header binds a name. -/
theorem binds_of_scan {l name body : Text} (hnul : '\x00' ∉ l) (hstart : startsHeader l = true)
    (h : scanSingleHeader l = some (name, body)) : Binds l name body := by
  rw [scanSingleHeader] at h
  rcases Option.bind_eq_some_iff.mp h with ⟨rest, hbang, h⟩
  rcases Option.bind_eq_some_iff.mp h with ⟨⟨chunkname, rest'⟩, hscan, h⟩
  rcases Option.bind_eq_some_iff.mp h with ⟨rest'', hquote, h⟩
  obtain ⟨rfl, rfl⟩ : chunkname = name ∧ rest'' = body := by simpa using h
  have hname : IsChunkName chunkname := by
    refine isChunkName_of_scan hstart ?_ hscan
    rwa [cstr_of_notMem hnul]
  refine ⟨hname, ?_⟩
  rw [eq_append_of_literal hbang, (scanSet_spec hscan).1, eq_append_of_literal hquote]
  rfl

/-- What is read as the header of a chunk of several lines opens one. -/
theorem opensChunk_of_scan {l name label rest : Text} (hnul : '\x00' ∉ l)
    (hstart : startsHeader l = true) (h : scanMultiHeader l = some (name, label, rest))
    (hlabel : startsAlpha label = true) : OpensChunk l := by
  rw [scanMultiHeader] at h
  rcases Option.bind_eq_some_iff.mp h with ⟨rest₁, hbang, h⟩
  rcases Option.bind_eq_some_iff.mp h with ⟨⟨chunkname, rest₂⟩, hscan, h⟩
  rcases Option.bind_eq_some_iff.mp h with ⟨rest₃, hquote, h⟩
  rcases Option.bind_eq_some_iff.mp h with ⟨⟨endstr, rest₄⟩, hscan', h⟩
  rcases Option.bind_eq_some_iff.mp h with ⟨rest₅, hopen, h⟩
  obtain ⟨rfl, rfl, rfl⟩ : chunkname = name ∧ endstr = label ∧ rest₅ = rest := by simpa using h
  have hname : IsChunkName chunkname := by
    refine isChunkName_of_scan hstart ?_ hscan
    rwa [cstr_of_notMem hnul]
  rcases scanSet_spec hscan' with ⟨hsplit, -, hchars⟩
  have hident : isIdent endstr = true := by
    cases endstr with
    | nil => exact absurd hlabel (by decide)
    | cons c cs =>
      rw [isIdent, Bool.and_eq_true, List.all_eq_true]
      exact ⟨hlabel, fun d hd => hchars d (List.mem_cons_of_mem c hd)⟩
  refine ⟨chunkname, endstr, rest₅, hname, hident, length_le_of_scanSet hscan', ?_⟩
  rw [eq_append_of_literal hbang, (scanSet_spec hscan).1, eq_append_of_literal hquote, hsplit,
    eq_append_of_literal hopen]
  rfl

/-! ## One turn of the loop -/

section Line

variable {filepath : Text} {lincnt : Nat} {l : Text} {p : Parser}

/-- A line that binds a name inserts it. -/
theorem parseLine_of_binds (hp : p.state = .skipSpaces) (hnul : '\x00' ∉ l) {name body : Text}
    (h : Binds l name body) :
    ∃ p', parseLine filepath lincnt l p = .ok p' ∧ p'.state = .skipSpaces ∧
      p'.resultmap = p.resultmap.insertIfNew name body := by
  rcases scan_of_binds h with ⟨hstart, hscan⟩
  rw [parseLine_header filepath lincnt hp hstart, headerLine, if_pos hstart, cstr_of_notMem hnul,
    hscan]
  exact ⟨_, rfl, rfl, rfl⟩

/-- Another line that is accepted changes nothing. -/
theorem parseLine_of_accepted (hp : p.state = .skipSpaces) (h : Accepted l)
    (hnone : ¬ ∃ name body, Binds l name body) :
    ∃ p', parseLine filepath lincnt l p = .ok p' ∧ p'.state = .skipSpaces ∧
      p'.resultmap = p.resultmap := by
  refine ⟨{ p with chunkname := [], chunkbody := [] }, ?_, hp, rfl⟩
  simp only [parseLine, hp]
  rcases h with rfl | hblank | hcomment | hbinds
  · rfl
  · rw [if_pos (List.all_eq_true.mpr hblank)]
    split
    · rfl
    · split <;> rfl
  · have hfirst : (l[0]? == some '#') = true := by
      rw [beq_iff_eq, ← List.head?_eq_getElem?, hcomment]
    rw [if_pos hfirst]
    split <;> rfl
  · exact absurd hbinds hnone

/-- Any other line is fatal, unless it opens a chunk. -/
theorem parseLine_of_not_accepted (hp : p.state = .skipSpaces) (hnul : '\x00' ∉ l)
    (h : ¬ Accepted l) (hopens : ¬ OpensChunk l) :
    ∃ e, parseLine filepath lincnt l p = .error e := by
  by_cases hstart : startsHeader l = true
  · rw [parseLine_header filepath lincnt hp hstart, headerLine, if_pos hstart, cstr_of_notMem hnul]
    cases hscan : scanSingleHeader l with
    | some header =>
      exact absurd (Or.inr (Or.inr (Or.inr ⟨_, _, binds_of_scan hnul hstart hscan⟩))) h
    | none =>
      cases hmulti : scanMultiHeader l with
      | none => exact ⟨_, rfl⟩
      | some header =>
        by_cases halpha : startsAlpha header.2.1 = true
        · exact absurd (opensChunk_of_scan hnul hstart hmulti halpha) hopens
        · simp only [if_neg halpha]
          exact ⟨_, rfl⟩
  · have hempty : ¬ l.isEmpty = true := fun he => h (Or.inl (List.isEmpty_iff.mp he))
    have hcomment : ¬ (l[0]? == some '#') = true := by
      intro he
      rw [beq_iff_eq, ← List.head?_eq_getElem?] at he
      exact h (Or.inr (Or.inr (Or.inl he)))
    have hblank : ¬ l.all isSpace = true :=
      fun he => h (Or.inr (Or.inl (List.all_eq_true.mp he)))
    simp only [parseLine, hp, if_neg hempty, if_neg hcomment, if_neg hblank, if_neg hstart]
    exact ⟨_, rfl⟩

end Line

/-- A line binds one name at most, and it to one body. -/
theorem Binds.unique {l name body name' body' : Text} (h : Binds l name body)
    (h' : Binds l name' body') : name = name' ∧ body = body' := by
  have hscan := (scan_of_binds h).2
  rw [(scan_of_binds h').2, Option.some.injEq, Prod.mk.injEq] at hscan
  exact ⟨hscan.1.symm, hscan.2.symm⟩

/-- One accepted line: the map keeps what it binds, and binds what the line does. -/
theorem parseLine_accepted {filepath : Text} {lincnt : Nat} {l : Text} {p : Parser}
    (hp : p.state = .skipSpaces) (hnul : '\x00' ∉ l) (h : Accepted l) :
    ∃ p', parseLine filepath lincnt l p = .ok p' ∧ p'.state = .skipSpaces ∧
      ∀ name body : Text, p'.resultmap[name]? = some body ↔
        p.resultmap[name]? = some body ∨ p.resultmap[name]? = none ∧ Binds l name body := by
  by_cases hbinds : ∃ name body, Binds l name body
  · rcases hbinds with ⟨name₁, body₁, hbinds⟩
    obtain ⟨p', hparse, hstate, hmap⟩ :=
      @parseLine_of_binds filepath lincnt l p hp hnul name₁ body₁ hbinds
    refine ⟨p', hparse, hstate, fun name body => ?_⟩
    rw [hmap]
    by_cases hname : name = name₁
    · subst hname
      have hline : Binds l name body ↔ body₁ = body :=
        ⟨fun hb => (hbinds.unique hb).2, fun hb => hb ▸ hbinds⟩
      rw [StdMap.getElem?_insertIfNew_self, hline]
      cases p.resultmap[name]? with
      | none => simp
      | some body₀ => simp
    · have hline : ¬ Binds l name body := fun hb => hname (hb.unique hbinds).1
      rw [StdMap.getElem?_insertIfNew_of_ne _ _ hname]
      simp [hline]
  · rcases @parseLine_of_accepted filepath lincnt l p hp h hbinds with ⟨p', hparse, hstate, hmap⟩
    refine ⟨p', hparse, hstate, fun name body => ?_⟩
    have hline : ¬ Binds l name body := fun hb => hbinds ⟨name, body, hb⟩
    rw [hmap]
    simp [hline]

/-! ## The loop -/

theorem InLimits.tail {lincnt off : Nat} {l : Text} {ls : List Text}
    (h : InLimits lincnt off (l :: ls)) : InLimits (lincnt + 1) (off + l.length + 1) ls := by
  have hcount := h.count
  rw [List.length_cons] at hcount
  refine ⟨by omega, ?_⟩
  intro front l' back hls
  have hoff := h.offsets (l :: front) l' back (by rw [hls, List.cons_append])
  rw [length_unlines_cons] at hoff
  omega

/-- Within the limits the loop takes one line after the other. -/
theorem parseLines_cons_of_inLimits {lincnt off : Nat} {l : Text} {ls : List Text}
    (h : InLimits lincnt off (l :: ls)) (filepath : Text) (p : Parser) :
    parseLines filepath lincnt off (l :: ls) p =
      (parseLine filepath lincnt l p).bind
        (parseLines filepath (lincnt + 1) (off + l.length + 1) ls) := by
  have hcount := h.count
  have hoff := h.offsets [] l ls rfl
  rw [List.length_cons] at hcount
  rw [unlines_nil, List.length_nil] at hoff
  rw [parseLines, if_neg (by omega), if_neg (by omega)]
  cases parseLine filepath lincnt l p <;> rfl

theorem firstBinds_cons_iff {l : Text} {ls : List Text} {name body : Text} :
    FirstBinds (l :: ls) name body ↔
      Binds l name body ∨ (∀ body', ¬ Binds l name body') ∧ FirstBinds ls name body := by
  constructor
  · rintro ⟨front, l', back, hls, hbinds, hfront⟩
    cases front with
    | nil =>
      rcases List.cons.inj hls with ⟨rfl, rfl⟩
      exact Or.inl hbinds
    | cons f front =>
      rw [List.cons_append] at hls
      rcases List.cons.inj hls with ⟨rfl, rfl⟩
      exact Or.inr ⟨hfront l List.mem_cons_self,
        front, l', back, rfl, hbinds, fun f hf => hfront f (List.mem_cons_of_mem l hf)⟩
  · rintro (hbinds | ⟨hl, front, l', back, rfl, hbinds, hfront⟩)
    · exact ⟨[], l, ls, rfl, hbinds, by simp⟩
    · refine ⟨l :: front, l', back, rfl, hbinds, ?_⟩
      intro f hf
      rcases List.mem_cons.mp hf with rfl | hf
      · exact hl
      · exact hfront f hf

/-- What the loop binds, from a map that binds some names already. -/
theorem parseLines_of_accepted {filepath : Text} {lincnt off : Nat} {ls : List Text} {p : Parser}
    (hlim : InLimits lincnt off ls) (hnul : ∀ l ∈ ls, '\x00' ∉ l) (hp : p.state = .skipSpaces)
    (h : ∀ l ∈ ls, Accepted l) :
    ∃ p', parseLines filepath lincnt off ls p = .ok p' ∧
      ∀ name body : Text, p'.resultmap[name]? = some body ↔
        p.resultmap[name]? = some body ∨ p.resultmap[name]? = none ∧ FirstBinds ls name body := by
  -- on the lines; what the first one binds is bound before the others are read
  induction ls generalizing lincnt off p with
  | nil =>
    refine ⟨p, rfl, fun name body => ?_⟩
    have hnone : ¬ FirstBinds [] name body := by
      rintro ⟨front, l, back, hls, -⟩
      exact absurd hls (by simp)
    simp [hnone]
  | cons l ls ih =>
    rcases List.forall_mem_cons.mp hnul with ⟨hnul₁, hnul⟩
    rcases List.forall_mem_cons.mp h with ⟨hl, h⟩
    rcases @parseLine_accepted filepath lincnt l p hp hnul₁ hl with ⟨p₁, hparse, hstate, hline⟩
    rcases ih hlim.tail hnul hstate h with ⟨p', hrest, hlookup⟩
    refine ⟨p', ?_, fun name body => ?_⟩
    · rw [parseLines_cons_of_inLimits hlim, hparse]
      exact hrest
    · -- a name is free after the line when it was before and the line does not bind it
      have hfree : p₁.resultmap[name]? = none ↔
          p.resultmap[name]? = none ∧ ∀ body', ¬ Binds l name body' := by
        simp only [Option.eq_none_iff_forall_ne_some, ne_eq, hline, not_or, not_and,
          forall_and]
        refine and_congr_right fun hnone => ?_
        exact forall_congr' fun body' => forall_prop_of_true hnone
      rw [hlookup, hline, hfree, firstBinds_cons_iff]
      tauto

/-- A line that is not accepted is fatal, whatever stands before it. -/
theorem parseLines_of_not_accepted {filepath : Text} {lincnt off : Nat} {ls : List Text}
    {p : Parser} (hlim : InLimits lincnt off ls) (hnul : ∀ l ∈ ls, '\x00' ∉ l)
    (hopens : ∀ l ∈ ls, ¬ OpensChunk l) (hp : p.state = .skipSpaces)
    (h : ∃ l ∈ ls, ¬ Accepted l) :
    ∃ e, parseLines filepath lincnt off ls p = .error e := by
  induction ls generalizing lincnt off p with
  | nil => simp at h
  | cons l ls ih =>
    rcases List.forall_mem_cons.mp hnul with ⟨hnul₁, hnul⟩
    rcases List.forall_mem_cons.mp hopens with ⟨hopens₁, hopens⟩
    rw [parseLines_cons_of_inLimits hlim]
    by_cases hl : Accepted l
    · rcases @parseLine_accepted filepath lincnt l p hp hnul₁ hl with ⟨p₁, hparse, hstate, -⟩
      rw [hparse]
      refine ih hlim.tail hnul hopens hstate ?_
      rcases h with ⟨bad, hbad, hnot⟩
      rcases List.mem_cons.mp hbad with rfl | hbad
      · exact absurd hl hnot
      · exact ⟨bad, hbad, hnot⟩
    · obtain ⟨e, hparse⟩ :=
        @parseLine_of_not_accepted filepath lincnt l p hp hnul₁ hl hopens₁
      exact ⟨e, by rw [hparse]; rfl⟩

/-! ## A file -/

/-- A file without NUL and without a line that opens a chunk, which the limits do
not stop. -/
structure SingleLineFile (contents : Text) : Prop where
  noNul : '\x00' ∉ contents
  limits : InLimits 1 0 (lines contents)
  noChunk : ∀ l ∈ lines contents, ¬ OpensChunk l

/-- **Exactness.** The parser aborts on a line that is not accepted and on nothing
else. Without one, the map binds the names that lines bind, each as its first line
does. -/
theorem parseChunkMap_singleLine {fs : Text → Option Text} {filepath contents : Text}
    (hread : fs filepath = some contents) (hfile : SingleLineFile contents) :
    ((∃ e, parseChunkMap fs filepath = .error e) ↔ ∃ l ∈ lines contents, ¬ Accepted l) ∧
      ∀ m, parseChunkMap fs filepath = .ok m → ∀ name body : Text,
        m[name]? = some body ↔ FirstBinds (lines contents) name body := by
  have hnul : ∀ l ∈ lines contents, '\x00' ∉ l :=
    fun l hl hmem => hfile.noNul (mem_of_mem_lines hl hmem)
  have hstart : Parser.start.state = .skipSpaces := rfl
  by_cases h : ∃ l ∈ lines contents, ¬ Accepted l
  · obtain ⟨e, hparse⟩ :=
      @parseLines_of_not_accepted filepath 1 0 _ _ hfile.limits hnul hfile.noChunk hstart h
    have herror : parseChunkMap fs filepath = .error e := by
      simp only [parseChunkMap, hread, hparse]
    refine ⟨iff_of_true ⟨e, herror⟩ h, ?_⟩
    intro m hm
    rw [herror] at hm
    cases hm
  · have hall : ∀ l ∈ lines contents, Accepted l := by
      intro l hl
      by_contra hnot
      exact h ⟨l, hl, hnot⟩
    obtain ⟨p, hparse, hlookup⟩ :=
      @parseLines_of_accepted filepath 1 0 _ _ hfile.limits hnul hstart hall
    have hok : parseChunkMap fs filepath = .ok p.resultmap := by
      simp only [parseChunkMap, hread, hparse]
    refine ⟨iff_of_false ?_ h, ?_⟩
    · rintro ⟨e, he⟩
      rw [hok] at he
      cases he
    · intro m hm name body
      rw [hok] at hm
      obtain rfl := Except.ok.inj hm
      rw [hlookup]
      have hempty : (Parser.start.resultmap)[name]? = none := Std.ExtTreeMap.getElem?_empty
      simp [hempty]

/-- A comment, a chunk, and a second chunk of the same name. -/
def twoChunks : Text := "#c\n!FOO'bar\n!FOO'baz\n".toList

theorem lines_twoChunks :
    lines twoChunks = ["#c".toList, "!FOO'bar".toList, "!FOO'baz".toList] := by decide

theorem singleLineFile_twoChunks : SingleLineFile twoChunks where
  noNul := by decide
  limits := by
    refine ⟨by rw [lines_twoChunks]; decide, ?_⟩
    intro front l back hls
    have hlen := length_unlines_lines twoChunks
    have hpart := congrArg (fun ls => (unlines ls).length) hls
    simp only [length_unlines_append] at hpart
    have hsize : twoChunks.length + 1 ≤ maxChunkmapSize := by decide
    omega
  noChunk := by
    intro l hl
    rintro ⟨name, label, rest, -, -, -, rfl⟩
    have hquote : '"' ∉ twoChunks := by decide
    exact hquote (mem_of_mem_lines hl (by simp))

/-- The file is accepted, as its lines say. -/
theorem parseChunkMap_singleLine_twoChunks :
    ((∃ e, parseChunkMap (fun _ => some twoChunks) [] = .error e) ↔
        ∃ l ∈ lines twoChunks, ¬ Accepted l) ∧
      ∀ m, parseChunkMap (fun _ => some twoChunks) [] = .ok m → ∀ name body : Text,
        m[name]? = some body ↔ FirstBinds (lines twoChunks) name body :=
  parseChunkMap_singleLine rfl singleLineFile_twoChunks

end HelpCovid.ChunkMap
