import HelpCovid.Lib.CText

/-!
# What a page takes from an HTTP request

The template data of a page holds the request: its method, its path and the
header `Accept-Language`, of which `request_language` keeps a two or three
letter code. What comes from a client is written to a page through
`hcv_output_cstr_encoded_html`.
-/

namespace HelpCovid.Web

open CText

/-- The parts of `httplib::Request` that template data reads. A missing header is
the empty string. -/
structure Request where
  method : Text
  path : Text
  acceptLanguage : Text
deriving Repr, DecidableEq

/-- The codes of `request_language`, in the order they are looked for. -/
def languageCodes : List Text :=
  ["af", "hr", "el", "pl", "sx", "sq", "cs", "gu", "pt", "sw", "ar", "da", "ht", "sv", "nl",
    "he", "pa", "hi", "en", "hu", "ta", "is", "qe", "tt", "id", "rm", "te", "iu", "ro", "th",
    "ga", "tig", "it", "ru", "ts", "tn", "ja", "sz", "tr", "kn", "sg", "tk", "ks", "sa", "uk",
    "kk", "sc", "hsb", "km", "gd", "ur", "ky", "sd", "ve", "eo", "tlh", "si", "vi", "ar", "et",
    "ko", "sr", "vo", "hy", "fo", "sk", "wa", "as", "fa", "sl", "cy", "ast", "fj", "la", "so",
    "xh", "az", "fi", "lv", "sb", "ji", "eu", "fr", "lt", "es", "zu", "bg", "lb", "be", "mk",
    "bn", "ms", "bs", "ml", "br", "mt", "my", "fy", "mr", "ca", "fur", "mo", "ch", "gd", "nv",
    "ce", "ng", "zh", "gl", "ne", "ka", "no", "de", "co", "cr", "oc", "or", "fa"].map String.toList

/-- `Hcv_http_template_data::request_language`: the first code that occurs in the
header; the empty string when none does. -/
def requestLanguage (req : Request) : Text :=
  if req.acceptLanguage.isEmpty then []
  else (languageCodes.find? fun code => (strstr code req.acceptLanguage).isSome).getD []

/-! ## Writing text from outside -/

/-- What `hcv_output_cstr_encoded_html` writes for one character. -/
def encodeChar (c : Char) : Text :=
  if c = '<' then "&lt;".toList
  else if c = '>' then "&gt;".toList
  else if c = '\'' then "&apos;".toList
  else if c = '&' then "&amp;".toList
  else if c = '"' then "&quot;".toList
  else [c]

/-- `hcv_output_cstr_encoded_html` -/
def outputCstrEncodedHtml (s : Text) : Text := (cstr s).flatMap encodeChar

/-- The characters that open and close tags and attribute values. -/
def isMarkupChar (c : Char) : Bool := c == '<' || c == '>' || c == '\'' || c == '"'

theorem encodeChar_noMarkup (c : Char) : (encodeChar c).filter isMarkupChar = [] := by
  unfold encodeChar
  split
  · rfl
  · next hlt =>
      split
      · rfl
      · next hgt =>
          split
          · rfl
          · next hapos =>
              split
              · rfl
              · split
                · rfl
                · next hquot =>
                    have hc : isMarkupChar c = false := by
                      simp [isMarkupChar, hlt, hgt, hapos, hquot]
                    rw [List.filter_cons_of_neg (by simp [hc]), List.filter_nil]

/-- Nothing that is encoded opens or closes a tag or an attribute value. -/
theorem outputCstrEncodedHtml_noMarkup (s : Text) :
    (outputCstrEncodedHtml s).filter isMarkupChar = [] := by
  rw [outputCstrEncodedHtml, List.filter_flatMap, List.flatMap_eq_nil_iff]
  intro c _
  exact encodeChar_noMarkup c

end HelpCovid.Web
