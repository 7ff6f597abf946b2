import HelpCovid.Lib.CText
import HelpCovid.Lib.StdMap

/-!
# Parsing a chunk map file

`hcv_parse_chunk_map` reads a customization file line by line. A line outside
of chunks is blank, a comment, or the header of a chunk: `!NAME'BODY` binds a
name to the rest of the line, `!NAME"LABEL(` starts a body of several lines
that `)LABEL"` should end.
-/

namespace HelpCovid.ChunkMap

open CText

/-- `hcvchunkstate_en` -/
inductive ChunkState where
  | none
  | skipSpaces
  | headerLine
  | insideChunk
deriving Repr, DecidableEq

/-- The fatal errors of `hcv_parse_chunk_map`, with what their messages show. -/
inductive Fatal where
  | cannotAccess (filepath : Text)
  | tooManyLines (filepath : Text) (lincnt : Nat)
  | tooManyBytes (filepath : Text) (off : Nat)
  | unexpectedLine (filepath : Text) (lincnt : Nat) (linbuf : Text)
  | badHeaderLine (lincnt : Nat) (state : ChunkState) (linbuf : Text)
  | unimplementedState (lincnt : Nat) (state : ChunkState) (linbuf : Text)
deriving Repr, DecidableEq

/-- `hcv_max_chunkmap_size` -/
def maxChunkmapSize : Nat := 512 * 1024

/-- `hcv_max_chunkmap_linelen`, which bounds the number of lines. -/
def maxChunkmapLinelen : Nat := 65536

/-- The variables of the parser that outlive a line. -/
structure Parser where
  state : ChunkState
  chunkname : Text
  chunkbody : Text
  resultmap : StdMap Text Text

/-- The variables before the first line. -/
def Parser.start : Parser := ⟨.skipSpaces, [], [], ∅⟩

/-- `resultmap.insert` -/
def Parser.insert (p : Parser) (name body : Text) : Parser :=
  { p with resultmap := p.resultmap.insertIfNew name body }

/-- `isalpha` of the first character. -/
def startsAlpha (s : Text) : Bool := s.head?.any Char.isAlpha

/-- A line with at least three characters, the first two being `!` and a letter. -/
def startsHeader (linbuf : Text) : Bool :=
  decide (3 ≤ linbuf.length) && linbuf[0]? == some '!' && startsAlpha (linbuf.drop 1)

/-- `sscanf(line, "!%60[A-Za-z0-9_]'%n", ...)`: the name and the text from
`endpos` on. `endpos` is set only when the quote was read. -/
def scanSingleHeader (line : Text) : Option (Text × Text) := do
  let rest ← literal ['!'] line
  let (chunknamebuf, rest) ← scanSet 60 isNameChar rest
  let rest ← literal ['\''] rest
  return (chunknamebuf, rest)

/-- `sscanf(line, "!%60[A-Za-z0-9_]\"%30[A-Za-z0-9_](%n", ...)`: the name, the
label and the text from `endpos` on. -/
def scanMultiHeader (line : Text) : Option (Text × Text × Text) := do
  let rest ← literal ['!'] line
  let (chunknamebuf, rest) ← scanSet 60 isNameChar rest
  let rest ← literal ['"'] rest
  let (endstrbuf, rest) ← scanSet 30 isNameChar rest
  let rest ← literal ['('] rest
  return (chunknamebuf, endstrbuf, rest)

/-- `sscanf(line, ")%30[A-Za-z0-9_] %n", ...)`: the label and `endpos`. -/
def scanFooter (line : Text) : Option (Text × Nat) := do
  let rest ← literal [')'] line
  let (parsendstrbuf, rest) ← scanSet 30 isNameChar rest
  return (parsendstrbuf, line.length - (blanks rest).length)

/-- The case of the state HEADERLINE. The label goes to `endstrbuf`, a variable
of the loop body that ends with the line. -/
def headerLine (lincnt : Nat) (linbuf : Text) (p : Parser) : Except Fatal Parser :=
  if startsHeader linbuf then
    match scanSingleHeader (cstr linbuf) with
    | some (chunkname, chunkbody) =>
        -- `insert` keeps the chunk that had the name first
        .ok ({ p with
          chunkname := chunkname, chunkbody := chunkbody
          state := .skipSpaces }.insert chunkname chunkbody)
    | none =>
        match scanMultiHeader (cstr linbuf) with
        | some (chunkname, endstrbuf, rest) =>
            if startsAlpha endstrbuf then
              -- text after the parenthesis begins the body
              let chunkbody := if rest.head?.any (fun c => !isSpace c) then rest else []
              .ok { p with
                chunkname := chunkname, chunkbody := chunkbody
                state := .insideChunk }
            else .error (.badHeaderLine lincnt p.state linbuf)
        | none => .error (.badHeaderLine lincnt p.state linbuf)
  else .error (.badHeaderLine lincnt p.state linbuf)

/-- The case of the state INSIDECHUNK: a closing line ends the chunk, any other
line is added to the body as it is. -/
def insideChunk (endstrbuf linbuf : Text) (p : Parser) : Parser :=
  match scanFooter (cstr linbuf) with
  | some (parsendstrbuf, endpos) =>
      if 2 < endpos && startsAlpha parsendstrbuf && parsendstrbuf == endstrbuf then
        -- the closing line of the chunk
        { p with state := .skipSpaces }.insert p.chunkname p.chunkbody
      else { p with chunkbody := p.chunkbody ++ linbuf }
  | none => { p with chunkbody := p.chunkbody ++ linbuf }

/-- One turn of the loop, the limits apart. `endstrbuf` is declared in the loop
body and cleared there: it is empty whenever the switch is entered. -/
def parseLine (filepath : Text) (lincnt : Nat) (linbuf : Text) (p : Parser) :
    Except Fatal Parser :=
  let endstrbuf : Text := []
  match p.state with
  | .skipSpaces =>
      let p := { p with chunkname := [], chunkbody := [] }
      if linbuf.isEmpty then .ok p
      else if linbuf[0]? == some '#' then .ok p
      else if linbuf.all isSpace then .ok p
      else if startsHeader linbuf then headerLine lincnt linbuf { p with state := .headerLine }
      else .error (.unexpectedLine filepath lincnt linbuf)
  | .headerLine => headerLine lincnt linbuf p
  | .insideChunk => .ok (insideChunk endstrbuf linbuf p)
  -- the state NONE is never entered
  | .none => .error (.unimplementedState lincnt p.state linbuf)

/-- The loop over the lines; `lincnt` and `off` are the number and the offset of
the first one. -/
def parseLines (filepath : Text) :
    (lincnt off : Nat) → List Text → Parser → Except Fatal Parser
  | _, _, [], p => .ok p
  | lincnt, off, linbuf :: rest, p =>
      if lincnt ≥ maxChunkmapLinelen then .error (.tooManyLines filepath lincnt)
      else if off > maxChunkmapSize then .error (.tooManyBytes filepath off)
      else match parseLine filepath lincnt linbuf p with
        | .error e => .error e
        | .ok p' => parseLines filepath (lincnt + 1) (off + linbuf.length + 1) rest p'

/-- `hcv_parse_chunk_map`; `fs` gives the contents of the readable files. A file
that ends inside a chunk is only logged. -/
def parseChunkMap (fs : Text → Option Text) (filepath : Text) :
    Except Fatal (StdMap Text Text) :=
  match fs filepath with
  | none => .error (.cannotAccess filepath)
  | some contents =>
      match parseLines filepath 1 0 (lines contents) .start with
      | .error e => .error e
      | .ok p => .ok p.resultmap

/-! ## The loop over lines -/

/-- Lines that neither limit of the parser stops. -/
def WithinLimits (lincnt off : Nat) (ls : List Text) : Prop :=
  lincnt + ls.length ≤ maxChunkmapLinelen ∧
    off + (unlines ls).length ≤ maxChunkmapSize + 1

theorem WithinLimits.tail {lincnt off : Nat} {linbuf : Text} {rest : List Text}
    (h : WithinLimits lincnt off (linbuf :: rest)) :
    WithinLimits (lincnt + 1) (off + linbuf.length + 1) rest := by
  rcases h with ⟨hlines, hbytes⟩
  rw [List.length_cons] at hlines
  rw [length_unlines_cons] at hbytes
  constructor <;> omega

theorem WithinLimits.append {lincnt off : Nat} {a b : List Text}
    (h : WithinLimits lincnt off (a ++ b)) :
    WithinLimits lincnt off a ∧
      WithinLimits (lincnt + a.length) (off + (unlines a).length) b := by
  rcases h with ⟨hlines, hbytes⟩
  rw [List.length_append] at hlines
  rw [length_unlines_append] at hbytes
  refine ⟨⟨?_, ?_⟩, ?_, ?_⟩ <;> omega

theorem WithinLimits.of_contents {contents : Text} (hsize : contents.length ≤ maxChunkmapSize)
    (hlines : (lines contents).length < maxChunkmapLinelen) :
    WithinLimits 1 0 (lines contents) := by
  have hlong := length_unlines_lines contents
  constructor <;> omega

/-- Within the limits the loop is the iteration of its body. -/
theorem parseLines_cons {lincnt off : Nat} {linbuf : Text} {rest : List Text}
    (h : WithinLimits lincnt off (linbuf :: rest)) (filepath : Text) (p : Parser) :
    parseLines filepath lincnt off (linbuf :: rest) p =
      (parseLine filepath lincnt linbuf p).bind
        (parseLines filepath (lincnt + 1) (off + linbuf.length + 1) rest) := by
  rcases h with ⟨hlines, hbytes⟩
  rw [List.length_cons] at hlines
  rw [length_unlines_cons] at hbytes
  rw [parseLines, if_neg (by omega), if_neg (by omega)]
  cases parseLine filepath lincnt linbuf p <;> rfl

theorem parseLines_append (filepath : Text) (lincnt off : Nat) (a b : List Text) (p : Parser) :
    parseLines filepath lincnt off (a ++ b) p =
      (parseLines filepath lincnt off a p).bind
        (parseLines filepath (lincnt + a.length) (off + (unlines a).length) b) := by
  induction a generalizing lincnt off p with
  | nil => rfl
  | cons linbuf rest ih =>
      rw [List.cons_append, parseLines, parseLines]
      split
      · rfl
      · split
        · rfl
        · cases parseLine filepath lincnt linbuf p with
          | error e => rfl
          | ok p' =>
              simp only
              rw [ih, List.length_cons, length_unlines_cons]
              congr 2 <;> omega

/-- No line ends a chunk: the label it would need is the empty one. -/
theorem parseLine_insideChunk (filepath : Text) (lincnt : Nat) (linbuf : Text) {p : Parser}
    (h : p.state = .insideChunk) :
    parseLine filepath lincnt linbuf p = .ok { p with chunkbody := p.chunkbody ++ linbuf } := by
  simp only [parseLine, h, insideChunk]
  cases scanFooter (cstr linbuf) with
  | none => rfl
  | some footer =>
      rcases footer with ⟨parsendstrbuf, endpos⟩
      have hopen : ¬ (startsAlpha parsendstrbuf = true ∧ parsendstrbuf = []) := by
        rintro ⟨halpha, rfl⟩
        simp [startsAlpha] at halpha
      simp only [Bool.and_eq_true, beq_iff_eq, decide_eq_true_eq, and_assoc]
      rw [if_neg fun hclose => hopen hclose.2]

/-- A chunk of several lines takes all the lines that follow. -/
theorem parseLines_insideChunk (filepath : Text) {lincnt off : Nat} {ls : List Text} {p : Parser}
    (hlim : WithinLimits lincnt off ls) (h : p.state = .insideChunk) :
    parseLines filepath lincnt off ls p = .ok { p with chunkbody := p.chunkbody ++ ls.flatten } := by
  induction ls generalizing lincnt off p with
  | nil => simp [parseLines]
  | cons linbuf rest ih =>
      rw [parseLines_cons hlim, parseLine_insideChunk _ _ _ h]
      refine (ih hlim.tail ?_).trans ?_
      · exact h
      · simp

end HelpCovid.ChunkMap
