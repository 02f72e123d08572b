import OpenIdProvider.Json.Value
import OpenIdProvider.Text.Blank
import OpenIdProvider.Text.Form

/-!
# HTTP messages

Requests and responses, as far as the provider looks at them.
-/

namespace OpenIdProvider.Http

/-- A request. -/
structure Request where
  method : String
  /-- The path as it is written, percent-encoded. -/
  path : String
  query : Option String
  /-- Names and values, in order. -/
  headers : List (String × String)
  body : String

namespace Request

/-- A request for a target: a path, and a query after a question mark. What
follows a number sign does not count. -/
def create (method target : String) (headers : List (String × String)) (body : String) : Request :=
  let (path, rest) := (target.toList.takeWhile (· ≠ '#')).span (· ≠ '?')
  let query := match rest with
    | [] => none
    | _ :: q => some (String.ofList q)
  { method, path := .ofList path, query, headers, body }

/-- The name of a header in lower case. -/
def foldName (name : String) : String :=
  name.map Char.toLower

/-- Whether a character may stand in a header whose text is looked at. -/
def isVisible (c : Char) : Bool :=
  c = '\t' || (' ' ≤ c && c ≤ '~')

/-- The first header of a name, if its text can be looked at. -/
def header? (r : Request) (name : String) : Option String :=
  let value := (r.headers.find? fun h => foldName h.1 == name).map Prod.snd
  value.filter fun v => v.toList.all isVisible

/-- The credentials after a scheme in the authorization header, trimmed; none if
they are blank. -/
def bearer? (r : Request) : Option String := do
  let value ← r.header? "authorization"
  if "Bearer ".toList.isPrefixOf value.toList then
    let token := Text.trim (.ofList (value.toList.drop 7))
    if token = "" then none else some token
  else none

end Request

/-- The body of a response. -/
inductive Body where
  | empty
  | json (j : Json)
  | text (s : String)

/-- A response. -/
structure Response where
  status : Nat
  /-- Headers besides the type of the body. -/
  headers : List (String × String)
  body : Body

namespace Response

/-- The type of the body. -/
def contentType? (r : Response) : Option String :=
  match r.body with
  | .empty => none
  | .json _ => some "application/json"
  | .text _ => some "text/plain; charset=utf-8"

/-- All headers: the type of the body, and the others. -/
def allHeaders (r : Response) : List (String × String) :=
  (r.contentType?.map fun t => ("content-type", t)).toList ++ r.headers

/-- The text of the body. -/
def bodyText (r : Response) : String :=
  match r.body with
  | .empty => ""
  | .json j => j.render
  | .text s => s

/-- A response without a body. -/
def bare (status : Nat) : Response :=
  ⟨status, [], .empty⟩

/-- A response with a text. -/
def plain (status : Nat) (s : String) : Response :=
  ⟨status, [], .text s⟩

/-- A response with a document. -/
def document (j : Json) : Response :=
  ⟨200, [], .json j⟩

end Response

/-! ## Parameters -/

/-- The known parameters, in reverse and after those that were found before, or the
name of the first one that stands there twice. Other parameters do not count. -/
def parameters (known : List String) (found : List Form.Pair) :
    List Form.Pair → Except String (List Form.Pair)
  | [] => .ok found
  | (name, value) :: ps =>
    if !known.contains name then parameters known found ps
    else if (found.lookup name).isSome then .error name
    else parameters known ((name, value) :: found) ps

/-- A text between two grave accents. -/
def backquoted (s : String) : String :=
  "\x60" ++ s ++ "\x60"

/-- What is said of a parameter that stands there twice. -/
def duplicateMessage (name : String) : String :=
  "duplicate field " ++ backquoted name

end OpenIdProvider.Http
