import HelpCovid.ChunkMap.Parser
import HelpCovid.ChunkMap.Layout

/-!
# Parsing what was laid out

The parser against the items of a file. Items of one line are parsed as they
should be (`parseLines_singles`). The header of a chunk of several lines puts
the parser into a state it never leaves, so the file then means only what stands
before that header: `parseChunkMap_multi_iff` says which files are parsed right
all the same.
-/

namespace HelpCovid.ChunkMap

open CText

/-! ## One line -/

theorem startsHeader_ident {width : Nat} (name : Ident width) (c : Char) (rest : Text) :
    startsHeader ('!' :: name.text ++ c :: rest) = true := by
  cases hname : name.text with
  | nil => exact absurd hname (ne_nil_of_isIdent name.isIdent_text)
  | cons d ds =>
      have hd := name.isIdent_text
      simp only [hname, isIdent, Bool.and_eq_true] at hd
      simp [startsHeader, startsAlpha, hd.1]
      omega

theorem cstr_singleLine (name : ChunkName) (body : LineText) :
    cstr (singleLine name body) = singleLine name body := by
  apply cstr_of_notMem
  have hname := name.notMem '\x00' (by decide)
  simp [singleLine, hname, body.noNul]

theorem cstr_openingLine (name : ChunkName) (label : ChunkLabel) :
    cstr (openingLine name label) = openingLine name label := by
  apply cstr_of_notMem
  have hname := name.notMem '\x00' (by decide)
  have hlabel := label.notMem '\x00' (by decide)
  simp [openingLine, hname, hlabel]

theorem scanSingleHeader_singleLine (name : ChunkName) (body : LineText) :
    scanSingleHeader (singleLine name body) = some (name.text, body.text) := by
  have hbang : literal ['!'] (singleLine name body) = some (name.text ++ '\'' :: body.text) :=
    literal_append ['!'] _
  have hquote : literal ['\''] ('\'' :: body.text) = some body.text := literal_append ['\''] _
  have hname := name.scanSet_append '\'' body.text (by decide)
  simp [scanSingleHeader, hbang, hname, hquote]

theorem scanSingleHeader_openingLine (name : ChunkName) (label : ChunkLabel) :
    scanSingleHeader (openingLine name label) = none := by
  have hbang : literal ['!'] (openingLine name label) =
      some (name.text ++ '"' :: (label.text ++ ['('])) := by
    simp [openingLine, literal]
  have hquote : literal ['\''] ('"' :: (label.text ++ ['('])) = none := by simp [literal]
  have hname := name.scanSet_append '"' (label.text ++ ['(']) (by decide)
  simp [scanSingleHeader, hbang, hname, hquote]

theorem scanMultiHeader_openingLine (name : ChunkName) (label : ChunkLabel) :
    scanMultiHeader (openingLine name label) = some (name.text, label.text, []) := by
  have hbang : literal ['!'] (openingLine name label) =
      some (name.text ++ '"' :: (label.text ++ ['('])) := by
    simp [openingLine, literal]
  have hquote : literal ['"'] ('"' :: (label.text ++ ['('])) = some (label.text ++ ['(']) :=
    literal_append ['"'] _
  have hopen : literal ['('] ['('] = some [] := by decide
  have hname := name.scanSet_append '"' (label.text ++ ['(']) (by decide)
  have hlabel := label.scanSet_append '(' [] (by decide)
  simp [scanMultiHeader, hbang, hname, hquote, hlabel, hopen]

/-- A header line is neither empty, a comment nor blank. -/
theorem parseLine_header (filepath : Text) (lincnt : Nat) {linbuf : Text} {p : Parser}
    (hp : p.state = .skipSpaces) (h : startsHeader linbuf = true) :
    parseLine filepath lincnt linbuf p =
      headerLine lincnt linbuf
        { p with chunkname := [], chunkbody := [], state := .headerLine } := by
  have hbang : linbuf[0]? = some '!' := by
    simp only [startsHeader, Bool.and_eq_true, beq_iff_eq] at h
    exact h.1.2
  have hblank : linbuf.all isSpace = false := by
    cases linbuf with
    | nil => simp at hbang
    | cons c cs =>
        obtain rfl : c = '!' := by simpa using hbang
        rfl
  have hempty : linbuf.isEmpty = false := by
    cases linbuf with
    | nil => simp at hbang
    | cons c cs => rfl
  simp [parseLine, hp, hempty, hbang, hblank, h]

/-- The state of the parser between chunks with a given map. -/
structure Between (p : Parser) (m : StdMap Text Text) : Prop where
  state : p.state = .skipSpaces
  resultmap : p.resultmap = m

/-- An item of one line is parsed to its binding. -/
theorem parseLine_item (filepath : Text) (lincnt : Nat) {p : Parser} {m : StdMap Text Text}
    (hp : Between p m) {item : Item} (hone : item.isMulti = false) :
    ∃ line p', item.lines = [line] ∧ parseLine filepath lincnt line p = .ok p' ∧
      Between p' (StdMap.insertAll m item.binding.toList) := by
  rcases hp with ⟨hstate, hmap⟩
  cases item with
  | blank spaces h =>
      refine ⟨spaces.text, { p with chunkname := [], chunkbody := [] }, rfl, ?_, hstate, hmap⟩
      have hall : spaces.text.all isSpace = true := List.all_eq_true.mpr h
      simp only [parseLine, hstate, hall]
      split
      · rfl
      · split <;> rfl
  | comment s =>
      refine ⟨'#' :: s.text, { p with chunkname := [], chunkbody := [] }, rfl, ?_, hstate, hmap⟩
      simp [parseLine, hstate]
  | single name body =>
      have hstarts : startsHeader (singleLine name body) = true := startsHeader_ident name _ _
      refine ⟨singleLine name body,
        ⟨.skipSpaces, name.text, body.text, p.resultmap.insertIfNew name.text body.text⟩,
        rfl, ?_, rfl, ?_⟩
      · -- the header is read and its body is the rest of the line
        rw [parseLine_header _ _ hstate hstarts, headerLine, if_pos hstarts, cstr_singleLine,
          scanSingleHeader_singleLine]
        rfl
      · simp [hmap, Item.binding]
  | multi name label body => simp [Item.isMulti] at hone

/-- The header of a chunk of several lines. -/
theorem parseLine_openingLine (filepath : Text) (lincnt : Nat) {p : Parser}
    {m : StdMap Text Text} (hp : Between p m) (name : ChunkName) (label : ChunkLabel) :
    ∃ p', parseLine filepath lincnt (openingLine name label) p = .ok p' ∧
      p'.state = .insideChunk ∧ p'.resultmap = m := by
  have hstarts : startsHeader (openingLine name label) = true := by
    have h := startsHeader_ident name '"' (label.text ++ ['('])
    simpa [openingLine] using h
  have halpha : startsAlpha label.text = true := by
    have hl := label.isIdent_text
    cases hlabel : label.text with
    | nil => exact absurd hlabel (ne_nil_of_isIdent hl)
    | cons d ds =>
        simp only [hlabel, isIdent, Bool.and_eq_true] at hl
        simp [startsAlpha, hl.1]
  rw [parseLine_header _ _ hp.state hstarts, headerLine, if_pos hstarts, cstr_openingLine,
    scanSingleHeader_openingLine, scanMultiHeader_openingLine]
  simp only [if_pos halpha]
  exact ⟨_, rfl, rfl, hp.resultmap⟩

/-! ## A file -/

/-- Items of one line are parsed to their bindings. -/
theorem parseLines_singles (filepath : Text) {lincnt off : Nat} {items : List Item}
    {p : Parser} {m : StdMap Text Text} (hlim : WithinLimits lincnt off (itemLines items))
    (hp : Between p m) (hone : ∀ item ∈ items, item.isMulti = false) :
    ∃ p', parseLines filepath lincnt off (itemLines items) p = .ok p' ∧
      Between p' (StdMap.insertAll m (items.filterMap Item.binding)) := by
  -- on the items; the map grows by the binding of each
  induction items generalizing lincnt off p m with
  | nil => exact ⟨p, rfl, hp⟩
  | cons item items ih =>
      rcases parseLine_item filepath lincnt hp (hone item (by simp)) with
        ⟨line, p₁, hline, hparse, hp₁⟩
      have hlines : itemLines (item :: items) = line :: itemLines items := by
        simp [itemLines, hline]
      rw [hlines] at hlim ⊢
      rcases ih hlim.tail hp₁ fun i hi => hone i (List.mem_cons_of_mem _ hi) with
        ⟨p', hrest, hp'⟩
      refine ⟨p', ?_, ?_⟩
      · rw [parseLines_cons hlim, hparse]
        exact hrest
      · rw [← StdMap.insertAll_append] at hp'
        cases hb : item.binding <;> simpa [List.filterMap_cons, hb] using hp'

/-- The items before the first chunk of several lines. -/
def singlesBefore (items : List Item) : List Item := items.takeWhile fun i => !i.isMulti

/-- The first chunk of several lines and the items after it. -/
def fromFirstMulti (items : List Item) : List Item := items.dropWhile fun i => !i.isMulti

/-- A file is parsed to what stands before its first chunk of several lines. -/
theorem parseChunkMap_eq {fs : Text → Option Text} {filepath contents : Text}
    {items : List Item} (hfile : fs filepath = some contents)
    (hsize : contents.length ≤ maxChunkmapSize)
    (hcount : (lines contents).length < maxChunkmapLinelen)
    (hitems : lines contents = itemLines items) :
    parseChunkMap fs filepath = .ok (meaning (singlesBefore items)) := by
  have hlim := WithinLimits.of_contents hsize hcount
  have hsplit : itemLines items = itemLines (singlesBefore items) ++
      itemLines (fromFirstMulti items) := by
    rw [itemLines, itemLines, itemLines, ← List.flatMap_append]
    congr 1
    exact (List.takeWhile_append_dropWhile).symm
  rw [hitems, hsplit] at hlim
  have hstart : Between Parser.start ∅ := ⟨rfl, rfl⟩
  rcases parseLines_singles filepath hlim.append.1 hstart
      (fun i hi => by simpa using List.mem_takeWhile_imp hi) with ⟨p, hparse, hp⟩
  have hbefore : StdMap.insertAll ∅ ((singlesBefore items).filterMap Item.binding) =
      meaning (singlesBefore items) := rfl
  rw [hbefore] at hp
  simp only [parseChunkMap, hfile, hitems]
  rw [hsplit, parseLines_append, hparse]
  simp only [Except.bind]
  cases hrest : fromFirstMulti items with
  -- no chunk of several lines at all
  | nil => simp [itemLines, parseLines, hp.resultmap]
  | cons item rest =>
      cases item with
      | multi name label body =>
          -- the parser enters the chunk and never leaves it
          have hmulti : itemLines (.multi name label body :: rest) = openingLine name label ::
              (body.bodyLines.map LineText.text ++ [closingLine label] ++ itemLines rest) := by
            simp [itemLines, Item.lines]
          rw [hrest, hmulti] at hlim
          rcases parseLine_openingLine filepath
              (1 + (itemLines (singlesBefore items)).length) hp name label with
            ⟨p', hopen, hinside, hmap⟩
          rw [hmulti, parseLines_cons hlim.append.2, hopen]
          simp only [Except.bind]
          rw [parseLines_insideChunk filepath hlim.append.2.tail hinside]
          simp [hmap]
      | _ =>
          -- the first item after `singlesBefore` cannot be one of a single line
          have hhead := List.head?_dropWhile_not (fun i : Item => !i.isMulti) items
          unfold fromFirstMulti at hrest
          rw [hrest] at hhead
          simp [Item.isMulti] at hhead

/-- **Files with a chunk of several lines.** The parser returns the map the file
means if and only if each chunk from the first one of several lines on has a
name that a chunk before it binds already. -/
theorem parseChunkMap_multi_iff {fs : Text → Option Text} {filepath contents : Text}
    (pre post : List Item) (name : ChunkName) (label : ChunkLabel) (body : Body label)
    (hfile : fs filepath = some contents) (hsize : contents.length ≤ maxChunkmapSize)
    (hcount : (lines contents).length < maxChunkmapLinelen)
    (hitems : lines contents = itemLines (pre ++ .multi name label body :: post)) :
    parseChunkMap fs filepath = .ok (meaning (pre ++ .multi name label body :: post)) ↔
      ∀ item ∈ fromFirstMulti (pre ++ .multi name label body :: post),
        ∀ b ∈ item.binding, b.1 ∈ meaning (singlesBefore (pre ++ .multi name label body :: post)) := by
  rw [parseChunkMap_eq hfile hsize hcount hitems]
  generalize pre ++ .multi name label body :: post = items
  have hsplit : items = singlesBefore items ++ fromFirstMulti items :=
    (List.takeWhile_append_dropWhile).symm
  -- the whole file means the map of its first part with the other bindings inserted
  have hmeaning : meaning items =
      StdMap.insertAll (meaning (singlesBefore items))
        ((fromFirstMulti items).filterMap Item.binding) := by
    conv_lhs => rw [hsplit]
    rw [meaning_append]
  rw [hmeaning, Except.ok.injEq, eq_comm, StdMap.insertAll_eq_self_iff]
  constructor
  · intro h item hitem b hb
    exact h b (List.mem_filterMap.mpr ⟨item, hitem, hb⟩)
  · intro h b hb
    rcases List.mem_filterMap.mp hb with ⟨item, hitem, hbind⟩
    exact h item hitem b hbind

/-! ## The chunk of the documentation -/

def multibarName : ChunkName := ⟨"MULTIBAR".toList, by decide, by decide⟩

def abcLabel : ChunkLabel := ⟨"abc".toList, by decide, by decide⟩

def multibarBody : Body abcLabel :=
  ⟨[⟨"several lines go here".toList, by decide, by decide⟩,
    ⟨"ending here".toList, by decide, by decide⟩], by decide⟩

/-- The file with this chunk only. -/
def multibarFile : Text := unlines (itemLines [.multi multibarName abcLabel multibarBody])

theorem parseChunkMap_multi_iff_multibar :
    parseChunkMap (fun _ => some multibarFile) "chunks".toList =
        .ok (meaning ([] ++ .multi multibarName abcLabel multibarBody :: [])) ↔
      ∀ item ∈ fromFirstMulti ([] ++ .multi multibarName abcLabel multibarBody :: []),
        ∀ b ∈ item.binding,
          b.1 ∈ meaning (singlesBefore ([] ++ .multi multibarName abcLabel multibarBody :: [])) :=
  parseChunkMap_multi_iff [] [] multibarName abcLabel multibarBody rfl (by decide) (by decide)
    (by decide)

/-- The chunk is not bound by the parser. -/
theorem parseChunkMap_multibar_unbound :
    (parseChunkMap (fun _ => some multibarFile) "chunks".toList).toOption.map
        (fun m => m["MULTIBAR".toList]?) = some none ∧
      (meaning [.multi multibarName abcLabel multibarBody])["MULTIBAR".toList]? =
        some "several lines go here\nending here".toList := by
  constructor <;> decide +kernel

end HelpCovid.ChunkMap
