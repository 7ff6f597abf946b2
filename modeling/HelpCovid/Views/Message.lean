import HelpCovid.ChunkMap.GlobalMap
import HelpCovid.Template.Closures
import HelpCovid.Web.Request

/-!
# Messages

`<?hcv msg MSGID default text?>` stands for a message that the configuration may
customize and that may be translated. `hcv_view_expand_msg` looks it up in the
global chunk map, then asks `dgettext`, then looks up the name with the language
of the request, and falls back on the default text.
-/

namespace HelpCovid.Views

open CText ChunkMap Template Web

/-- The sites where `hcv_view_expand_msg` and `hcv_view_expand_confmsg` give up. -/
inductive ViewFatal where
  | invalidMsgid (procinstr msgidbuf : Text)
  | noEndOfMessage (procinstr : Text)
  | confmsgNotImplemented (msgidbuf : Text)
deriving Repr, DecidableEq

/-- `%38[A-Za-z0-9_]` -/
def msgidWidth : Nat := 38

/-- `sscanf(procinstr, "<?hcv KEYWORD %38[A-Za-z0-9_] %n", msgidbuf, &endp)`: the
identifier and the text from `endp` on. -/
def scanMsgid (keyword procinstr : Text) : Option (Text × Text) := do
  let rest ← literal ['<', '?', 'h', 'c', 'v'] procinstr
  let rest ← literal keyword (blanks rest)
  let (msgidbuf, rest) ← scanSet msgidWidth isNameChar (blanks rest)
  return (msgidbuf, blanks rest)

/-- The fields that the scan for an identifier reads. -/
theorem fields_of_scanMsgid {keyword s id begmsg : Text}
    (h : scanMsgid keyword s = some (id, begmsg)) :
    ∃ t u v, s = ['<', '?', 'h', 'c', 'v'] ++ t ∧ blanks t = keyword ++ u ∧
      scanSet msgidWidth isNameChar (blanks u) = some (id, v) ∧ begmsg = blanks v := by
  simp only [scanMsgid, Option.bind_eq_bind, Option.bind_eq_some_iff] at h
  rcases h with ⟨t, ht, u, hu, ⟨id', v⟩, hv, heq⟩
  rcases Prod.mk.inj (Option.some.inj heq) with ⟨rfl, rfl⟩
  exact ⟨t, u, v, eq_append_of_literal ht, eq_append_of_literal hu, hv, rfl⟩

/-- The name of the chunk for a language. -/
def langChunkName (chunknam reqlang : Text) : Text :=
  if reqlang.isEmpty then chunknam else chunknam ++ '_' :: reqlang

section Msg

variable (globchunkMap : StdMap Text Text) (dgettext : Text → Text)

/-- What `hcv_view_expand_msg` returns for an identifier and the default text.
`dgettext` returns its argument when there is no translation. -/
def messageText (reqlang msgidbuf rawmsg : Text) : Text :=
  let chunkent := getChunkmapEntry globchunkMap msgidbuf
  if !chunkent.isEmpty then chunkent
  else
    let localizedmsg := dgettext msgidbuf
    if localizedmsg != msgidbuf then localizedmsg
    else
      let entry := getChunkmapEntry globchunkMap (langChunkName msgidbuf reqlang)
      if !entry.isEmpty then entry else rawmsg

/-- `hcv_view_expand_msg` -/
def viewExpandMsg (req : Request) (procinstr : Text) : Except ViewFatal Text :=
  match scanMsgid "msg".toList (cstr procinstr) with
  | none => .ok []
  | some (msgidbuf, begmsg) =>
      if !startsAlpha msgidbuf then .error (.invalidMsgid procinstr msgidbuf)
      else match strstr closing begmsg with
        | none => .error (.noEndOfMessage procinstr)
        | some endmsg =>
            .ok (messageText globchunkMap dgettext (requestLanguage req) msgidbuf
              (begmsg.take endmsg))

/-- `hcv_view_expand_confmsg`, which is not implemented. -/
def viewExpandConfmsg (procinstr : Text) : Except ViewFatal Text :=
  match scanMsgid "confmsg".toList (cstr procinstr) with
  | none => .ok []
  | some (msgidbuf, begmsg) =>
      if !startsAlpha msgidbuf then .error (.invalidMsgid procinstr msgidbuf)
      else match strstr closing begmsg with
        | none => .error (.noEndOfMessage procinstr)
        | some _ => .error (.confmsgNotImplemented msgidbuf)

end Msg

end HelpCovid.Views
