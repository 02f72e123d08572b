import OpenIdProvider.Text.Base64
import OpenIdProvider.Text.Blank

/-!
# Armoured keys and certificates

Two readings of bytes in a text between boundaries. `Pem.sole?` is strict and reads
one block: other text may stand before it but not after it, the two boundaries
name the same label, and the base64 text is wrapped at 64 columns.

`Pem.blocks` is loose and reads all blocks of a text in order, up to a broken one:
it skips lines outside of blocks, takes lines of any width and base64 texts one
after another, and ends a block at any closing boundary.

`Pem.Block.text` writes a block in the strict form.
-/

namespace OpenIdProvider.Pem

/-- A block: its label and the bytes that it holds. -/
structure Block where
  label : String
  contents : Bytes

/-- The text of the opening boundary before the label. -/
def opening : List Char := "-----BEGIN ".toList

/-- The text of the closing boundary before the label. -/
def closing : List Char := "-----END ".toList

/-- The dashes that end a boundary. -/
def dashes : List Char := "-----".toList

/-- The text after `front`, if the text begins with it. -/
def after? (front s : List Char) : Option (List Char) :=
  if front.isPrefixOf s then some (s.drop front.length) else none

/-- The text before `back`, if the text ends with it. -/
def before? (back s : List Char) : Option (List Char) :=
  if back.isSuffixOf s then some (s.take (s.length - back.length)) else none

/-- The text after one line end at its front. -/
def afterLineEnd? : List Char → Option (List Char)
  | '\r' :: '\n' :: r => some r
  | '\n' :: r => some r
  | '\r' :: r => some r
  | _ => none

/-- The text before one line end at its back. -/
def beforeLineEnd? (s : List Char) : Option (List Char) :=
  match s.reverse with
  | '\n' :: '\r' :: r => some r.reverse
  | '\n' :: r => some r.reverse
  | '\r' :: r => some r.reverse
  | _ => none

/-! ## One strict block -/

/-- The text from the first opening boundary at the start of a line. -/
def fromOpening? : (lineStart : Bool) → List Char → Option (List Char)
  | _, [] => none
  | lineStart, c :: r =>
    if lineStart && opening.isPrefixOf (c :: r) then some (c :: r)
    else if c = '\x00' then none
    else fromOpening? (c == '\n' || c == '\r') r

/-- The characters of a text wrapped at 64 columns, where `count` bounds the
number of lines. The last line may be shorter. -/
def unwrap? : (count : Nat) → List Char → Option (List Char)
  | 0, _ => none
  | n + 1, s =>
    let rest := s.drop 64
    if rest.isEmpty then some s
    else do
      let rest ← afterLineEnd? rest
      return s.take 64 ++ (← unwrap? n rest)

/-- The only block of a text. -/
def sole? (s : List Char) : Option Block := do
  let s ← fromOpening? true s
  let s ← after? opening s
  let label := s.takeWhile (· ≠ '-')
  let s ← after? dashes (s.drop label.length)
  let s ← afterLineEnd? s
  let s ← before? dashes ((beforeLineEnd? s).getD s)
  let s ← before? label s
  let s ← before? closing s
  let body ← beforeLineEnd? s
  let base64 ← unwrap? (body.length + 1) body
  return ⟨String.ofList label, ← Base64.decodeChars? base64⟩

/-! ## All loose blocks -/

/-- The lines of a text, each without its line feed. -/
def lines : List Char → List (List Char)
  | [] => []
  | c :: r =>
    if c = '\n' then [] :: lines r
    else match lines r with
      | [] => [[c]]
      | l :: ls => (c :: l) :: ls

/-- The text before the first dashes, if there are any. -/
def untilDashes? : List Char → Option (List Char)
  | [] => none
  | c :: r =>
    if dashes.isPrefixOf (c :: r) then some [] else (untilDashes? r).map (c :: ·)

/-- A line without the blanks at its end. -/
def trimEnd (l : List Char) : List Char :=
  (l.reverse.dropWhile Text.isBlank).reverse

/-- The text of the lines up to a closing boundary, and the lines after it. -/
def blockBody? : List (List Char) → Option (List Char × List (List Char))
  | [] => none
  | l :: ls =>
    if closing.isPrefixOf l then some ([], ls)
    else (blockBody? ls).map fun (body, rest) => (trimEnd l ++ body, rest)

/-- The blocks of a text up to the first broken one. -/
structure Blocks where
  whole : List Block
  /-- Whether a broken block follows. -/
  broken : Bool

/-- The block that begins with a line, and the lines after it. Its label ends at the first
dash. -/
def blockAt? (l : List Char) (ls : List (List Char)) : Option (Block × List (List Char)) := do
  let name ← untilDashes? (l.drop opening.length)
  let (body, rest) ← blockBody? ls
  return (⟨String.ofList (name.takeWhile (· ≠ '-')), ← Base64.decodeJoined? body⟩, rest)

/-- The blocks that the lines of a text hold, where `count` bounds the lines. -/
def blocksOfLines : (count : Nat) → List (List Char) → Blocks
  | 0, _ => ⟨[], false⟩
  | _, [] => ⟨[], false⟩
  | n + 1, l :: ls =>
    if opening.isPrefixOf l then
      match blockAt? l ls with
      | none => ⟨[], true⟩
      | some (b, rest) =>
        let more := blocksOfLines n rest
        ⟨b :: more.whole, more.broken⟩
    else blocksOfLines n ls

/-- The blocks of a text in order. -/
def blocks (s : String) : Blocks :=
  let ls := lines s.toList
  blocksOfLines (ls.length + 1) ls

/-! ## Writing -/

/-- A text in lines of 64 columns, of which the last one may be shorter. -/
def wrap (s : List Char) : List (List Char) :=
  if s.isEmpty then [] else s.take 64 :: wrap (s.drop 64)
termination_by s.length
decreasing_by
  have : s.length ≠ 0 := by simp_all
  simp only [List.length_drop]
  omega

/-- The text of a block. Each line of it ends with a line feed. -/
def Block.text (b : Block) : String :=
  let label := b.label.toList
  let ls := (opening ++ label ++ dashes) :: wrap (Base64.encodeChars b.contents)
    ++ [closing ++ label ++ dashes]
  String.ofList (ls.flatMap (· ++ ['\n']))

end OpenIdProvider.Pem
