import OpenIdProvider.Text.Decimal
import OpenIdProvider.Text.Hex

/-!
# JSON values

JSON values with the members of an object in the order of the text, and their
compact text. Integers of 64 bits are numbers here; any other number keeps its
literal. A value that is well formed but that no reading may accept, such as a
string with half of a surrogate pair, is `unreadable`: it can only be skipped.
-/

namespace OpenIdProvider

/-- A JSON value. -/
inductive Json where
  | null
  | bool (b : Bool)
  /-- An integer from `-2^63` to `2^64 - 1`, written without fraction or
  exponent. -/
  | integer (n : Int)
  /-- Any other number in the range of double precision, as it is written. -/
  | decimal (literal : String)
  | string (s : String)
  | array (items : List Json)
  /-- Members in the order of the text; a key may stand there twice. -/
  | object (members : List (String × Json))
  /-- A value that can be skipped but not read; `ends` says whether a reader gives up on
  it at its end. -/
  | unreadable (ends : Bool)
  deriving Inhabited

namespace Json

/-- An optional value, with `null` for none. -/
def ofOption {α : Type} (f : α → Json) : Option α → Json
  | some a => f a
  | none => null

/-- An optional text, with `null` for none. -/
def ofText? (s : Option String) : Json :=
  ofOption string s

/-- A list of texts. -/
def ofTexts (ss : List String) : Json :=
  array (ss.map string)

/-- A member for a value that is there, and no member for one that is not. -/
def memberIf {α : Type} (key : String) (f : α → Json) : Option α → List (String × Json)
  | some a => [(key, f a)]
  | none => []

/-- A member of an object by its key; the last one, if the key repeats. -/
def member? (key : String) : Json → Option Json
  | object ms => (ms.reverse.find? fun m => m.1 == key).map Prod.snd
  | _ => none

mutual

/-- Whether a value and everything inside it can be read. -/
def isReadable : Json → Bool
  | array vs => itemsReadable vs
  | object ms => membersReadable ms
  | unreadable _ => false
  | _ => true

/-- Whether all items can be read. -/
def itemsReadable : List Json → Bool
  | [] => true
  | v :: vs => isReadable v && itemsReadable vs

/-- Whether the values of all members can be read. -/
def membersReadable : List (String × Json) → Bool
  | [] => true
  | (_, v) :: ms => isReadable v && membersReadable ms

end

/-! ## Text -/

/-- A character inside a string. -/
def charCode (c : Char) : List Char :=
  if c = '"' then ['\\', '"']
  else if c = '\\' then ['\\', '\\']
  else if c = '\n' then ['\\', 'n']
  else if c = '\r' then ['\\', 'r']
  else if c = '\t' then ['\\', 't']
  else if c = '\x08' then ['\\', 'b']
  else if c = '\x0c' then ['\\', 'f']
  else if c.toNat < 32 then
    ['\\', 'u', '0', '0', Hex.digit (c.toNat / 16), Hex.digit (c.toNat % 16)]
  else [c]

/-- A quoted string. -/
def quoted (s : String) : List Char :=
  '"' :: s.toList.flatMap charCode ++ ['"']

mutual

/-- The compact text of a value. -/
def chars : Json → List Char
  | null => ['n', 'u', 'l', 'l']
  | bool true => ['t', 'r', 'u', 'e']
  | bool false => ['f', 'a', 'l', 's', 'e']
  | integer n => Decimal.intChars n
  | decimal literal => literal.toList
  | string s => quoted s
  | array [] => ['[', ']']
  | array (v :: vs) => '[' :: (chars v ++ itemsChars vs)
  | object [] => ['\x7b', '\x7d']
  | object ((k, v) :: ms) => '\x7b' :: (quoted k ++ ':' :: (chars v ++ membersChars ms))
  | unreadable _ => ['n', 'u', 'l', 'l']

/-- The text of the items after the first one, and the closing bracket. -/
def itemsChars : List Json → List Char
  | [] => [']']
  | v :: vs => ',' :: (chars v ++ itemsChars vs)

/-- The text of the members after the first one, and the closing brace. -/
def membersChars : List (String × Json) → List Char
  | [] => ['\x7d']
  | (k, v) :: ms => ',' :: (quoted k ++ ':' :: (chars v ++ membersChars ms))

end

/-- The compact text of a value. -/
def render (j : Json) : String :=
  String.ofList j.chars

end Json

end OpenIdProvider
