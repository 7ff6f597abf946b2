import HelpCovid.Template.Expander

/-!
# The two template scanners

`hcv_expand_template_file` and `hcv_expand_template_input_stream` read a
template line by line and copy it to an output stream, handing each
`<?hcv ...?>` markup to `hcv_expand_processing_instruction`. The loop over a
line is written twice in `hcv_template.cc`; the copies differ in their output
stream only. The file version writes to the stream of the template data, the
one the expanders write to. The other writes to a stream of its own.
-/

namespace HelpCovid.Template

open CText

/-- The output streams of an expansion: the one of the template data and the
local one of `hcv_expand_template_input_stream`. -/
structure Streams where
  data : Text
  own : Text
deriving Repr, DecidableEq

/-- The stream a scanner copies literal text to. -/
inductive Sink where
  | data
  | own
deriving Repr, DecidableEq

/-- `outp << s` -/
def Streams.put (st : Streams) (sink : Sink) (s : Text) : Streams :=
  match sink with
  | .data => { st with data := st.data ++ s }
  | .own => { st with own := st.own ++ s }

/-- What an expander writes. -/
def Streams.expand (st : Streams) (s : Text) : Streams := { st with data := st.data ++ s }

section Line

variable {ε : Type*} (dict : ExpanderDict ε) (env : Nat → ε) (sink : Sink)
  (filename : Text) (lineno off : Nat)

/-- The loop over one line. `cur` is the text from `curpc` on and `col` its
column. The end of the markup is searched from `curpc+strlen("<?hcv ")`, so it
may lie before `startpi`, and `std::string(startpi, (endpi+2)-startpi)` is then
built with a negative length. -/
def scanLoop : Nat → Nat → Text → Streams → Except Failure Streams
  | 0, _, _, _ => .error .outOfFuel
  | fuel + 1, col, cur, st =>
      match strstr opening cur with
      | none => .ok (st.put sink cur)
      | some startpi =>
          match strstr closing (cur.drop opening.length) with
          -- an unclosed markup is logged and copied
          | none => .ok (st.put sink cur)
          | some endpi =>
              -- `curpc` after this turn, from `curpc` before it
              let next := opening.length + endpi + closing.length
              let before := cur.take startpi
              if next < startpi then .error .lengthError
              else
                let procinstr := (cur.drop startpi).take (next - startpi)
                match expandProcessingInstruction dict (env (off + col + startpi))
                    ⟨procinstr, filename, lineno, off⟩ with
                | .error e => .error e
                | .ok s =>
                    scanLoop fuel (col + next) (cur.drop next)
                      ((st.put sink before).expand s)

/-- One line through the loop. Each turn moves `curpc` forward, so a turn per
character is enough. -/
def scanLine (linbuf : Text) (st : Streams) : Except Failure Streams :=
  let linestr := cstr linbuf
  match scanLoop dict env sink filename lineno off (linestr.length + 1) 0 linestr st with
  | .error e => .error e
  | .ok st' => .ok (st'.put sink ['\n'])

end Line

section Files

variable {ε : Type*} (dict : ExpanderDict ε) (env : Nat → ε)

/-- A line of a template file that is copied verbatim: among the first seven,
it starts with `<!` and has more than four characters. -/
def verbatimLine (lineno : Nat) (linbuf : Text) : Bool :=
  lineno < 8 && decide (linbuf.length > 4) && linbuf[0]? == some '<' && linbuf[1]? == some '!'

/-- The loop of `hcv_expand_template_file` over the lines; `lineno` and `off`
are the number and the offset of the first one. -/
def expandFileLines (path : Text) :
    (lineno off : Nat) → List Text → Streams → Except Failure Streams
  | _, _, [], st => .ok st
  | lineno, off, linbuf :: rest, st =>
      let line :=
        if linbuf.isEmpty then .ok (st.put .data ['\n'])
        -- a document type or a comment
        else if verbatimLine lineno linbuf then .ok ((st.put .data linbuf).put .data ['\n'])
        else scanLine dict env .data path lineno off linbuf st
      match line with
      | .error e => .error e
      | .ok st' => expandFileLines path (lineno + 1) (off + linbuf.length + 1) rest st'

/-- The loop of `hcv_expand_template_input_stream` over the lines. -/
def expandStreamLines (inpname : Text) :
    (lineno off : Nat) → List Text → Streams → Except Failure Streams
  | _, _, [], st => .ok st
  | lineno, off, linbuf :: rest, st =>
      if off > maxTemplateSize then .error (.fatal (.sourceTooBig inpname off))
      else match scanLine dict env .own inpname lineno off linbuf st with
        | .error e => .error e
        | .ok st' => expandStreamLines inpname (lineno + 1) (off + linbuf.length + 1) rest st'

/-- What `stat` and `open` find at a path. -/
structure SourceFile where
  isRegular : Bool
  contents : Text
deriving Repr, DecidableEq

/-- `hcv_expand_template_file`. `fs` is the file system and `outs` what the
output stream of the template data holds already; the result is all it holds
in the end. -/
def expandTemplateFile (fs : Text → Option SourceFile) (srcfilepath : Text) (outs : Text) :
    Except Failure Text :=
  if srcfilepath.isEmpty then .error (.fatal .emptySourcePath)
  else match fs srcfilepath with
    | none => .error (.fatal (.statFailure srcfilepath))
    | some src =>
        if !src.isRegular then .error (.fatal (.notRegularFile srcfilepath))
        else if src.contents.length > maxTemplateSize then
          .error (.fatal (.sourceTooBig srcfilepath src.contents.length))
        else match expandFileLines dict env srcfilepath 1 0 (lines src.contents) ⟨outs, []⟩ with
          | .error e => .error e
          | .ok st => .ok st.data

/-- `hcv_expand_template_input_stream`: the returned string and the final
contents of the output stream of the template data. A null name is replaced. -/
def expandTemplateInputStream (srcinp : Text) (inpname : Option Text) (outs : Text) :
    Except Failure (Text × Text) :=
  let inpname := inpname.getD "??*null*??".toList
  match expandStreamLines dict env inpname 1 0 (lines srcinp) ⟨outs, []⟩ with
  | .error e => .error e
  | .ok st => .ok (st.own, st.data)

/-- `hcv_expand_template_string` -/
def expandTemplateString (inpstr : Text) (inpname : Option Text) (outs : Text) :
    Except Failure (Text × Text) :=
  expandTemplateInputStream dict env inpstr inpname outs

end Files

end HelpCovid.Template
