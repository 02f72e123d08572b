import OpenIdProvider.Text.Percent

/-!
# Form-encoded pairs

The media type `application/x-www-form-urlencoded`: pairs of a name and a value
joined by `=` and separated by `&`. A space is written `+`, letters, digits and
`*-._` stand for themselves, and every other byte is percent-encoded.

Reading accepts every text. It skips empty pieces, takes a piece without `=` as
a name with an empty value, and shows bytes that spell no character as U+FFFD.
-/

namespace OpenIdProvider.Form

/-- A name and its value. -/
abbrev Pair := String × String

/-- Whether a character stands for itself. -/
def isPlain (c : Char) : Bool :=
  ('a' ≤ c && c ≤ 'z') || ('A' ≤ c && c ≤ 'Z') || ('0' ≤ c && c ≤ '9')
    || c == '*' || c == '-' || c == '.' || c == '_'

/-- One character in a name or a value. -/
def encodeChar (c : Char) : List Char :=
  if isPlain c then [c]
  else if c = ' ' then ['+']
  else (String.utf8EncodeChar c).flatMap Percent.code

/-- A name or a value. -/
def encodeComponent (s : String) : List Char :=
  s.toList.flatMap encodeChar

/-- A name and its value, joined. -/
def encodePair (p : Pair) : List Char :=
  encodeComponent p.1 ++ '=' :: encodeComponent p.2

/-- Pairs in order. -/
def encodeChars (ps : List Pair) : List Char :=
  ['&'].intercalate (ps.map encodePair)

/-- Pairs in order. -/
def encode (ps : List Pair) : String :=
  String.ofList (encodeChars ps)

/-- The pieces of `s` between the separators `sep`; one more than there are
separators. -/
def pieces (sep : Char) : List Char → List (List Char)
  | [] => [[]]
  | c :: r =>
    if c = sep then [] :: pieces sep r
    else match pieces sep r with
      | [] => [[c]]
      | p :: ps => (c :: p) :: ps

/-- The parts of a piece before and after its first `=`. -/
def splitPair (piece : List Char) : List Char × List Char :=
  (piece.takeWhile (· ≠ '='), (piece.dropWhile (· ≠ '=')).drop 1)

/-- The text that a name or a value spells. -/
def decodeComponent (cs : List Char) : String :=
  Utf8.decodeLossy (Percent.decode (cs.map fun c => if c = '+' then ' ' else c))

/-- The pair that a piece spells. -/
def decodePair (piece : List Char) : Pair :=
  let (name, value) := splitPair piece
  (decodeComponent name, decodeComponent value)

/-- The pairs that a text spells. -/
def decodeChars (cs : List Char) : List Pair :=
  ((pieces '&' cs).filter (! ·.isEmpty)).map decodePair

/-- The pairs that a text spells. -/
def decode (s : String) : List Pair :=
  decodeChars s.toList

end OpenIdProvider.Form
