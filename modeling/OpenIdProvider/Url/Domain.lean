import OpenIdProvider.Text.Utf8
import OpenIdProvider.Unicode.Composition
import OpenIdProvider.Unicode.Direction
import OpenIdProvider.Unicode.Joining
import OpenIdProvider.Unicode.Mapping
import OpenIdProvider.Unicode.Mark
import OpenIdProvider.Url.Punycode

/-!
# Domains in ASCII

How a domain gets its ASCII form: characters are mapped, the text is brought into
composed form and split into labels, and each label is checked and written with
ASCII letters. A label that is written so already, behind `xn--`, is read first
and checked as what it says.

`toAscii?` is the ASCII form. It refuses characters that URLs reserve, keeps
hyphens wherever they stand, and does not bound the length of a domain.
-/

namespace OpenIdProvider.Domain

open Unicode (Direction Joining)

/-- Whether a domain may not hold an ASCII character. -/
def isForbidden (c : Char) : Bool :=
  c.toNat ≤ 32 || c.toNat == 127 || "%#/:<>?@[\\]^|".toList.contains c

/-- Whether all characters are ASCII. -/
def isAscii (s : List Char) : Bool :=
  s.all (·.toNat < 128)

/-- The mark in front of a label that is written with ASCII letters. -/
def encodedMark : List Char := "xn--".toList

/-- How long a label may be that is written with ASCII letters. -/
def encodableLength : Nat := 1000

/-- How long the letters of such a label may be. -/
def decodableLength : Nat := 2000

/-! ## Labels -/

/-- Whether the characters beside a non-joiner join without it: those before it
come last one first. -/
def joinsAcross (before after : List Char) : Bool :=
  let nearest (s : List Char) : Option Joining :=
    (s.map Joining.ofChar?).find? (· != some .transparent) |>.join
  (nearest before == some .left || nearest before == some .dual)
    && (nearest after == some .right || nearest after == some .dual)

/-- Whether the joiners and non-joiners of a label stand where they change how
the label is shown, where `before` are the characters in front, last one first. A
sign that silences a vowel allows both. -/
def joinersFit (before : List Char) : List Char → Bool
  | [] => true
  | c :: r =>
    let afterVirama := before.head?.any (Unicode.combiningClass · == Unicode.viramaClass)
    let fits :=
      if c == '\u200D' then afterVirama
      else if c == '\u200C' then afterVirama || joinsAcross before r
      else true
    fits && joinersFit (c :: before) r

/-- Whether a label may stand in a domain: its characters stand for themselves
and are not reserved, it does not begin with a mark, and its joiners fit. -/
def isLabel (s : List Char) : Bool :=
  s.all (fun c => Unicode.isValid c && !isForbidden c && c != '.')
    && !s.head?.any Unicode.isMark && joinersFit [] s

/-- A label: what it says, and its ASCII form. -/
structure Label where
  text : List Char
  ascii : List Char
  deriving DecidableEq, Repr

namespace Label

/-- The label that is written with ASCII letters behind a mark. It is in composed
form and does not say ASCII characters alone. -/
def ofEncoded? (letters : List Char) : Option Label := do
  if letters.getLast?.all (· == '-') || decodableLength < letters.length then none
  else
    let text ← Punycode.decode? letters
    if Unicode.composed text == text && isLabel text then
      return ⟨text, encodedMark ++ letters⟩
    else none

/-- The label that mapped characters in composed form make. -/
def ofMapped? (s : List Char) : Option Label :=
  if encodedMark.isPrefixOf s then
    if isAscii s then ofEncoded? (s.drop encodedMark.length) else none
  else if !isLabel s then none
  else if isAscii s then some ⟨s, s⟩
  else if encodableLength < s.length then none
  else some ⟨s, encodedMark ++ Punycode.encode s⟩

end Label

/-! ## Domains -/

/-- The parts of a text between dots. -/
def splitDots : List Char → List (List Char)
  | [] => [[]]
  | c :: r =>
    if c = '.' then [] :: splitDots r
    else match splitDots r with
      | [] => [[c]]
      | l :: ls => (c :: l) :: ls

/-- Whether the labels of a domain may stand together: if one holds a character
written from right to left, which is not in ASCII, all follow the rule of
directions. -/
def directionsFit (ls : List Label) : Bool :=
  let directions := ls.map (·.text.map Direction.ofChar)
  ls.all (isAscii ·.text) || !directions.any (·.any Direction.isRightToLeft)
    || directions.all Direction.fits

/-- The labels of a domain. -/
def labels? (s : List Char) : Option (List Label) := do
  let mapped ← s.mapM Unicode.mapped?
  let ls ← (splitDots (Unicode.composed mapped.flatten)).mapM Label.ofMapped?
  if directionsFit ls then return ls else none

/-- The ASCII form of a domain in UTF-8. -/
def toAscii? (bs : Bytes) : Option (List Char) := do
  let ls ← labels? (← Utf8.decodeChars? bs)
  return ['.'].intercalate (ls.map Label.ascii)

end OpenIdProvider.Domain
