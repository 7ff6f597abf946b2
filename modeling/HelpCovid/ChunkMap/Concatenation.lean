import HelpCovid.ChunkMap.GlobalMap
import HelpCovid.Lib.Machine

/-!
# Splitting a customization over files

What outlives a line of a chunk map file is the state of the parser, the chunk
it is in, and the map built so far; and the map is only added to. So the parser
does on the second part of a file what it does on that part alone, as long as
it does not start inside a chunk. `Follows` is the relation between the two
runs.
-/

namespace HelpCovid.ChunkMap

open CText

/-- `p` is a parser with the bindings of `m` before those of `q`. Outside a chunk
the name and the body are those of a chunk that is over. -/
structure Follows (m : StdMap Text Text) (p q : Parser) : Prop where
  state_eq : p.state = q.state
  chunk_eq : p.state ≠ .skipSpaces → p.chunkname = q.chunkname ∧ p.chunkbody = q.chunkbody
  resultmap_eq : p.resultmap = m.merge q.resultmap

/-- Both runs go on, in step, or both abort. -/
def BothFollow (m : StdMap Text Text) (rp rq : Except Fatal Parser) : Prop :=
  match rp, rq with
  | .ok p, .ok q => Follows m p q
  | .error _, .error _ => True
  | _, _ => False

variable {m : StdMap Text Text} {p q : Parser}

section BothFollow

variable {rp rq : Except Fatal Parser}

theorem BothFollow.ok_of_right (h : BothFollow m rp rq) (hq : rq = .ok q) :
    ∃ p, rp = .ok p ∧ Follows m p q := by
  subst hq
  cases rp with
  | error e => exact False.elim h
  | ok p => exact ⟨p, rfl, h⟩

theorem BothFollow.error_iff (h : BothFollow m rp rq) :
    (∃ e, rp = .error e) ↔ ∃ e, rq = .error e := by
  cases rp <;> cases rq
  case error.error e e' => exact iff_of_true ⟨e, rfl⟩ ⟨e', rfl⟩
  case ok.ok => simp
  all_goals exact False.elim h

end BothFollow

theorem Follows.insert (h : Follows m p q) (name body : Text) :
    (p.insert name body).resultmap = m.merge (q.insert name body).resultmap := by
  show p.resultmap.insertIfNew name body = m.merge (q.resultmap.insertIfNew name body)
  rw [h.resultmap_eq, StdMap.insertIfNew_merge]

/-- A header line sets the name and the body, so the two parsers agree on them
afterwards. -/
theorem headerLine_follows (h : Follows m p q) (lincnt lincnt' : Nat) (linbuf : Text) :
    BothFollow m (headerLine lincnt linbuf p) (headerLine lincnt' linbuf q) := by
  unfold headerLine
  split
  · cases scanSingleHeader (cstr linbuf) with
    | some header =>
        rcases header with ⟨chunkname, chunkbody⟩
        exact ⟨rfl, fun hstate => absurd rfl hstate, h.insert chunkname chunkbody⟩
    | none =>
        cases scanMultiHeader (cstr linbuf) with
        | none => exact True.intro
        | some header =>
            rcases header with ⟨chunkname, endstrbuf, rest⟩
            simp only
            split
            · exact ⟨rfl, fun _ => ⟨rfl, rfl⟩, h.resultmap_eq⟩
            · exact True.intro
  · exact True.intro

theorem insideChunk_follows (h : Follows m p q) (hstate : p.state = .insideChunk)
    (endstrbuf linbuf : Text) :
    Follows m (insideChunk endstrbuf linbuf p) (insideChunk endstrbuf linbuf q) := by
  have hchunk : p.chunkname = q.chunkname ∧ p.chunkbody = q.chunkbody :=
    h.chunk_eq (by rw [hstate]; exact ChunkState.noConfusion)
  have hgrow : Follows m { p with chunkbody := p.chunkbody ++ linbuf }
      { q with chunkbody := q.chunkbody ++ linbuf } :=
    ⟨h.state_eq, fun _ => ⟨hchunk.1, congrArg (· ++ linbuf) hchunk.2⟩, h.resultmap_eq⟩
  unfold insideChunk
  cases scanFooter (cstr linbuf) with
  | none => exact hgrow
  | some footer =>
      simp only
      split
      · refine ⟨rfl, fun hne => absurd rfl hne, ?_⟩
        rw [hchunk.1, hchunk.2]
        exact Follows.insert (p := { p with state := .skipSpaces })
          (q := { q with state := .skipSpaces }) ⟨rfl, fun hne => absurd rfl hne, h.resultmap_eq⟩
          q.chunkname q.chunkbody
      · exact hgrow

/-- One line, whatever its number and the name of the file. -/
theorem parseLine_follows (h : Follows m p q) (filepath filepath' : Text) (lincnt lincnt' : Nat)
    (linbuf : Text) :
    BothFollow m (parseLine filepath lincnt linbuf p) (parseLine filepath' lincnt' linbuf q) := by
  unfold parseLine
  rw [← h.state_eq]
  cases hstate : p.state with
  | none => exact True.intro
  | headerLine => exact headerLine_follows h lincnt lincnt' linbuf
  | insideChunk => exact insideChunk_follows h hstate [] linbuf
  | skipSpaces =>
      -- the name and the body are cleared, on both sides
      have hclear : Follows m
          { p with state := .skipSpaces, chunkname := [], chunkbody := [] }
          { q with state := .skipSpaces, chunkname := [], chunkbody := [] } :=
        ⟨rfl, fun _ => ⟨rfl, rfl⟩, h.resultmap_eq⟩
      have hheader : Follows m
          { p with state := .headerLine, chunkname := [], chunkbody := [] }
          { q with state := .headerLine, chunkname := [], chunkbody := [] } :=
        ⟨rfl, fun _ => ⟨rfl, rfl⟩, h.resultmap_eq⟩
      simp only
      split
      · exact hclear
      · split
        · exact hclear
        · split
          · exact hclear
          · split
            · exact headerLine_follows hheader _ _ _
            · exact True.intro

/-- A run within the limits. -/
theorem parseLines_follows {lincnt lincnt' off off' : Nat} {ls : List Text} (h : Follows m p q)
    (hlim : WithinLimits lincnt off ls) (hlim' : WithinLimits lincnt' off' ls)
    (filepath filepath' : Text) :
    BothFollow m (parseLines filepath lincnt off ls p) (parseLines filepath' lincnt' off' ls q) := by
  induction ls generalizing lincnt lincnt' off off' p q with
  | nil => exact h
  | cons linbuf rest ih =>
      rw [parseLines_cons hlim, parseLines_cons hlim']
      have hline := parseLine_follows h filepath filepath' lincnt lincnt' linbuf
      cases hq : parseLine filepath' lincnt' linbuf q with
      | error e' =>
          rcases hline.error_iff.mpr ⟨e', hq⟩ with ⟨e, hp⟩
          rw [hp]
          exact True.intro
      | ok q' =>
          rcases hline.ok_of_right hq with ⟨p', hp, hnext⟩
          rw [hp]
          exact ih hnext hlim.tail hlim'.tail

/-! ## Two files and their concatenation -/

/-- A file, a second one, and the file they make together, which is within the
limits. The first one ends with a newline, outside a chunk. -/
structure SplitFile (fs : Text → Option Text)
    (pathA pathB pathAB contentsA contentsB : Text) : Prop where
  readA : fs pathA = some contentsA
  readB : fs pathB = some contentsB
  readAB : fs pathAB = some (contentsA ++ contentsB)
  newline : contentsA.getLast? = some '\n'
  fewBytes : (contentsA ++ contentsB).length ≤ maxChunkmapSize
  fewLines : (lines (contentsA ++ contentsB)).length < maxChunkmapLinelen
  outside : ∀ p, parseLines pathA 1 0 (lines contentsA) .start = .ok p → p.state = .skipSpaces

section Split

variable {fs : Text → Option Text} {pathA pathB pathAB contentsA contentsB : Text}

theorem SplitFile.lines_eq (split : SplitFile fs pathA pathB pathAB contentsA contentsB) :
    lines (contentsA ++ contentsB) = lines contentsA ++ lines contentsB := by
  rcases List.getLast?_eq_some_iff.mp split.newline with ⟨a, rfl⟩
  rw [List.append_assoc]
  exact lines_append_of_newline a contentsB

/-- The whole file and its two parts are within the limits, the second part on
its own as well as after the first. -/
theorem SplitFile.withinLimits (split : SplitFile fs pathA pathB pathAB contentsA contentsB) :
    WithinLimits 1 0 (lines contentsA) ∧ WithinLimits 1 0 (lines contentsB) ∧
      WithinLimits (1 + (lines contentsA).length) (0 + (unlines (lines contentsA)).length)
        (lines contentsB) := by
  have hwhole := WithinLimits.of_contents split.fewBytes split.fewLines
  rw [split.lines_eq] at hwhole
  refine ⟨hwhole.append.1, WithinLimits.of_contents ?_ ?_, hwhole.append.2⟩
  · have := split.fewBytes
    rw [List.length_append] at this
    omega
  · have := split.fewLines
    rw [split.lines_eq, List.length_append] at this
    omega

/-- The first part of the whole file is parsed as the first part alone. -/
theorem SplitFile.follow_left (split : SplitFile fs pathA pathB pathAB contentsA contentsB) :
    BothFollow ∅ (parseLines pathAB 1 0 (lines contentsA) .start)
      (parseLines pathA 1 0 (lines contentsA) .start) := by
  have hlim := split.withinLimits
  have hfirst : Follows ∅ Parser.start Parser.start :=
    ⟨rfl, fun _ => ⟨rfl, rfl⟩, (StdMap.merge_empty ∅).symm⟩
  exact parseLines_follows hfirst hlim.1 hlim.1 pathAB pathA

/-- Where the first part parses, the whole file goes on from its map as the
second part does from the empty one. -/
theorem SplitFile.bothFollow (split : SplitFile fs pathA pathB pathAB contentsA contentsB)
    {pA : Parser} (hA : parseLines pathA 1 0 (lines contentsA) .start = .ok pA) :
    BothFollow pA.resultmap (parseLines pathAB 1 0 (lines (contentsA ++ contentsB)) .start)
      (parseLines pathB 1 0 (lines contentsB) .start) := by
  have hlim := split.withinLimits
  have hpart := split.follow_left
  rcases hpart.ok_of_right hA with ⟨p, hAB, hpart⟩
  rw [split.lines_eq, parseLines_append, hAB]
  have hmap : p.resultmap = pA.resultmap := by
    rw [hpart.resultmap_eq]
    exact StdMap.empty_merge _
  have hstart : Follows pA.resultmap p Parser.start := by
    have houtside := split.outside pA hA
    refine ⟨hpart.state_eq.trans houtside, ?_, ?_⟩
    · intro hne
      exact absurd (hpart.state_eq.trans houtside) hne
    · rw [hmap]
      exact (StdMap.merge_empty _).symm
  exact parseLines_follows hstart hlim.2.2 hlim.2.1 pathAB pathB

/-- Where the first part does not parse, neither does the whole file. -/
theorem SplitFile.error_of_left (split : SplitFile fs pathA pathB pathAB contentsA contentsB)
    {e : Fatal} (hA : parseLines pathA 1 0 (lines contentsA) .start = .error e) :
    ∃ e', parseLines pathAB 1 0 (lines (contentsA ++ contentsB)) .start = .error e' := by
  rcases split.follow_left.error_iff.mpr ⟨e, hA⟩ with ⟨e', hAB⟩
  refine ⟨e', ?_⟩
  rw [split.lines_eq, parseLines_append, hAB]
  rfl

/-- `hcv_parse_chunk_map` on a readable file. -/
theorem parseChunkMap_of_read {path contents : Text} (h : fs path = some contents) :
    parseChunkMap fs path = (parseLines path 1 0 (lines contents) .start).map (·.resultmap) := by
  simp only [parseChunkMap, h]
  cases parseLines path 1 0 (lines contents) .start <;> rfl

/-- Where both parts parse, the whole file binds what the first part binds and
what the second part adds. -/
theorem SplitFile.parse_ok (split : SplitFile fs pathA pathB pathAB contentsA contentsB)
    {mapA mapB : StdMap Text Text} (hA : parseChunkMap fs pathA = .ok mapA)
    (hB : parseChunkMap fs pathB = .ok mapB) :
    parseChunkMap fs pathAB = .ok (mapA.merge mapB) := by
  rw [parseChunkMap_of_read split.readA] at hA
  rw [parseChunkMap_of_read split.readB] at hB
  rw [parseChunkMap_of_read split.readAB]
  rcases Machine.ok_of_map hA with ⟨pA, hpA, hmapA⟩
  rcases Machine.ok_of_map hB with ⟨pB, hpB, hmapB⟩
  rcases (split.bothFollow hpA).ok_of_right hpB with ⟨pAB, hpAB, hfollow⟩
  rw [hpAB, ← hmapA, ← hmapB, ← hfollow.resultmap_eq]
  rfl

theorem exists_map_error_iff {r : Except Fatal Parser} :
    (∃ e, r.map (·.resultmap) = .error e) ↔ ∃ e, r = .error e := by
  cases r <;> simp [Except.map]

/-- The whole file aborts exactly when a part does. -/
theorem SplitFile.aborts_iff (split : SplitFile fs pathA pathB pathAB contentsA contentsB) :
    (∃ e, parseChunkMap fs pathAB = .error e) ↔
      (∃ e, parseChunkMap fs pathA = .error e) ∨ ∃ e, parseChunkMap fs pathB = .error e := by
  rw [parseChunkMap_of_read split.readA, parseChunkMap_of_read split.readB,
    parseChunkMap_of_read split.readAB]
  simp only [exists_map_error_iff]
  cases hpA : parseLines pathA 1 0 (lines contentsA) .start with
  | error e => exact iff_of_true (split.error_of_left hpA) (Or.inl ⟨e, rfl⟩)
  | ok pA =>
      rw [(split.bothFollow hpA).error_iff]
      simp

end Split

/-- **Splitting a customization.** A file cut at the end of a line, outside of
chunks, aborts exactly when one of its parts does, and otherwise binds what the
first part binds and what the second part adds. A list of files is added to the
global map exactly when each of them can be, and binds each name to its body in
the first file that defines it. -/
theorem chunkFiles_split (fs : Text → Option Text) :
    (∀ pathA pathB pathAB contentsA contentsB,
      SplitFile fs pathA pathB pathAB contentsA contentsB →
        ((∃ e, parseChunkMap fs pathAB = .error e) ↔
          (∃ e, parseChunkMap fs pathA = .error e) ∨ ∃ e, parseChunkMap fs pathB = .error e) ∧
        ∀ mapA mapB : StdMap Text Text,
          parseChunkMap fs pathA = .ok mapA → parseChunkMap fs pathB = .ok mapB →
            ∃ mapAB : StdMap Text Text, parseChunkMap fs pathAB = .ok mapAB ∧
              ∀ name : Text, mapAB[name]? = (mapA[name]?).or mapB[name]?) ∧
    ∀ paths : List Text,
      ((∃ glob, paths.foldlM (addChunkmapFile fs) ∅ = .ok glob) ↔
        ∀ path ∈ paths, Addable fs path) ∧
      ∀ glob : StdMap Text Text, paths.foldlM (addChunkmapFile fs) ∅ = .ok glob →
        ∀ name : Text, glob[name]? = paths.findSome? (bodyIn fs name) := by
  refine ⟨?_, fun paths => ?_⟩
  · intro pathA pathB pathAB contentsA contentsB split
    refine ⟨split.aborts_iff, ?_⟩
    intro mapA mapB hA hB
    exact ⟨mapA.merge mapB, split.parse_ok hA hB, StdMap.getElem?_merge mapA mapB⟩
  · refine ⟨(addChunkmapFiles paths ∅).1, ?_⟩
    intro glob h name
    rw [(addChunkmapFiles paths ∅).2 glob h name]
    simp

/-! ## A file cut in two -/

/-- A file with two chunks, its second half defining the first chunk again. -/
def cutFiles : Text → Option Text
  | ['/', 'a'] => some "!WELCOME'hello\n".toList
  | ['/', 'b'] => some "!WELCOME'hi\n!BYE'see you\n".toList
  | ['/', 'c'] => some "!WELCOME'hello\n!WELCOME'hi\n!BYE'see you\n".toList
  | _ => none

theorem splitFile_cutFiles :
    SplitFile cutFiles "/a".toList "/b".toList "/c".toList "!WELCOME'hello\n".toList
      "!WELCOME'hi\n!BYE'see you\n".toList where
  readA := rfl
  readB := rfl
  readAB := rfl
  newline := by decide
  fewBytes := by decide
  fewLines := by decide
  outside := by
    intro p hp
    have hstate : (parseLines "/a".toList 1 0 (lines "!WELCOME'hello\n".toList) .start).map
        Parser.state = .ok .skipSpaces := by decide +kernel
    rw [hp] at hstate
    exact Except.ok.inj hstate

/-- What a file of `cutFiles` binds. -/
def cutMap (path : Text) : StdMap Text Text := (parseChunkMap cutFiles path).toOption.getD ∅

theorem chunkFiles_split_cutFiles :
    (∃ mapAB : StdMap Text Text, parseChunkMap cutFiles "/c".toList = .ok mapAB ∧
      ∀ name : Text, mapAB[name]? = ((cutMap "/a".toList)[name]?).or (cutMap "/b".toList)[name]?) ∧
    ∃ glob : StdMap Text Text,
      ["/a".toList, "/b".toList].foldlM (addChunkmapFile cutFiles) ∅ = .ok glob ∧
        ∀ name : Text, glob[name]? =
          ["/a".toList, "/b".toList].findSome? (bodyIn cutFiles name) :=
  ⟨((chunkFiles_split cutFiles).1 _ _ _ _ _ splitFile_cutFiles).2 _ _ rfl rfl, _, rfl,
    ((chunkFiles_split cutFiles).2 ["/a".toList, "/b".toList]).2 _ rfl⟩

end HelpCovid.ChunkMap
