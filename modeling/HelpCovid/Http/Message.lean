import HelpCovid.Lib.StdMultimap
import HelpCovid.Web.FreshCookie
import Mathlib.Data.Char
import Mathlib.Data.List.Lex

/-!
# Requests and responses

The parts of `httplib::Request` and `httplib::Response` that the server reads and
writes. Parameters and files are multimaps. The keys of headers are compared without
regard to case, and headers are the list of their entries in the order in which these
were inserted: what is looked up by key is the first entry with an equal key, as in
`std::multimap`, and `write_headers` brings them into the order of the keys.
-/

namespace HelpCovid.Http

open CText Web

section Decidable

variable (p : Char → Prop) [DecidablePred p]

-- decided along the text, not over all characters
instance decidableForallMem (s : Text) : Decidable (∀ c ∈ s, p c) := List.decidableBAll p s

instance decidableForallMemOption (o : Option Char) : Decidable (∀ c ∈ o, p c) :=
  Option.decidableForallMem o

end Decidable

/-- `httplib::Params` -/
abbrev Params := StdMultimap Text Text

/-- `httplib::Range`: the first and the last position, -1 where it is left out. -/
abbrev Range := Int × Int

/-- `httplib::MultipartFormData` -/
structure MultipartFormData where
  name : Text
  content : Text
  filename : Text
  contentType : Text
deriving Repr, DecidableEq

/-- `httplib::Request` -/
structure Request where
  method : Text
  target : Text
  path : Text
  version : Text
  headers : Headers
  params : Params
  files : StdMultimap Text MultipartFormData
  body : Text
  ranges : List Range
deriving Repr, DecidableEq

/-- `Request req;` -/
def Request.init : Request := ⟨[], [], [], [], [], ∅, ∅, [], []⟩

/-- `httplib::Response`; the status is -1 until one is set. -/
structure Response where
  version : Text
  status : Int
  headers : Headers
  body : Text
deriving Repr, DecidableEq

/-- `Response res;` -/
def Response.init : Response := ⟨[], -1, [], []⟩

/-- `Response::set_header` -/
def Response.setHeader (res : Response) (key val : Text) : Response :=
  { res with headers := Web.setHeader key val res.headers }

/-- `Response::set_content` -/
def Response.setContent (res : Response) (s contentType : Text) : Response :=
  { res with body := s }.setHeader "Content-Type".toList contentType

/-- How the server goes on no more. -/
inductive Stop where
  /-- the process ends -/
  | terminate
  /-- a worker is kept for ever -/
  | hang
deriving Repr, DecidableEq

end HelpCovid.Http
