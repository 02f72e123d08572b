/-!
# Blank characters, trimming and words

A character is blank when it has the Unicode property `White_Space`. `trim`
cuts blanks from both ends of a text, `words` is the list of its maximal runs
of other characters, and `unwords` joins words by single spaces. Core's
character classes know ASCII alone, so the property has its own table here.
-/

namespace OpenIdProvider.Text

/-- Whether a character has the Unicode property `White_Space`. -/
def isBlank (c : Char) : Bool :=
  let n := c.toNat
  (9 ≤ n && n ≤ 13) || n == 0x20 || n == 0x85 || n == 0xA0 || n == 0x1680
    || (0x2000 ≤ n && n ≤ 0x200A) || n == 0x2028 || n == 0x2029 || n == 0x202F
    || n == 0x205F || n == 0x3000

/-- A text without the blanks at its two ends. -/
def trimChars (s : List Char) : List Char :=
  ((s.dropWhile isBlank).reverse.dropWhile isBlank).reverse

/-- The words of `s`, where `current` holds the letters of the word being
read, last letter first. -/
def wordsFrom (current : List Char) : List Char → List (List Char)
  | [] => if current.isEmpty then [] else [current.reverse]
  | c :: r =>
    if isBlank c then
      if current.isEmpty then wordsFrom [] r else current.reverse :: wordsFrom [] r
    else wordsFrom (c :: current) r

/-- The maximal runs of characters that are not blank, in order. -/
def wordsChars (s : List Char) : List (List Char) :=
  wordsFrom [] s

/-- A text without the blanks at its two ends. -/
def trim (s : String) : String :=
  String.ofList (trimChars s.toList)

/-- The words of a text, in order. -/
def words (s : String) : List String :=
  (wordsChars s.toList).map String.ofList

/-- Words joined by single spaces. -/
def unwords (ws : List String) : String :=
  " ".intercalate ws

end OpenIdProvider.Text
