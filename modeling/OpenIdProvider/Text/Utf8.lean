/-!
# UTF-8

Texts as byte strings and back. `decode?` refuses a byte string that is not
well formed. `decodeLossy` reads every byte string: where no character can be
read, the longest run of bytes that begins one, or else a single byte, stands
for one U+FFFD. `decodeMarking` puts a mark of the reader's choice for each byte
that belongs to no character.
-/

namespace OpenIdProvider

/-- A byte string. -/
abbrev Bytes := List UInt8

namespace Utf8

/-- The bytes of a text. -/
def encode (s : List Char) : Bytes :=
  s.flatMap String.utf8EncodeChar

/-- The bytes of a string. -/
def ofString (s : String) : Bytes :=
  encode s.toList

/-- The character that the first bytes spell, if they spell one. -/
def head? (bs : Bytes) : Option Char :=
  (bs.take 4).toByteArray.utf8DecodeChar? 0

/-- Whether `b` may follow the leading byte `lead` as the second byte. -/
def isSecond (lead b : UInt8) : Bool :=
  if lead == 0xE0 then 0xA0 ≤ b && b ≤ 0xBF
  else if lead == 0xED then 0x80 ≤ b && b ≤ 0x9F
  else if lead == 0xF0 then 0x90 ≤ b && b ≤ 0xBF
  else if lead == 0xF4 then 0x80 ≤ b && b ≤ 0x8F
  else 0x80 ≤ b && b ≤ 0xBF

/-- Whether `b` may be a third or fourth byte. -/
def isContinuation (b : UInt8) : Bool :=
  0x80 ≤ b && b ≤ 0xBF

/-- How many bytes one replacement character stands for, given that no
character can be read: the longest run that begins one, and at least one. -/
def brokenLength : Bytes → Nat
  | lead :: b :: c :: _ =>
    if 0xE0 ≤ lead && lead ≤ 0xF4 && isSecond lead b then
      if 0xF0 ≤ lead && isContinuation c then 3 else 2
    else 1
  | [lead, b] => if 0xE0 ≤ lead && lead ≤ 0xF4 && isSecond lead b then 2 else 1
  | _ => 1

/-- The characters spelled by `bs`, or nothing if some byte belongs to none. -/
def decodeChars? (bs : Bytes) : Option (List Char) :=
  match bs with
  | [] => some []
  | b :: r =>
    match head? (b :: r) with
    | some c => (decodeChars? (r.drop (c.utf8Size - 1))).map (c :: ·)
    | none => none
termination_by bs.length
decreasing_by simp only [List.length_drop, List.length_cons]; omega

/-- The text spelled by `bs`, or nothing if some byte belongs to no character. -/
def decode? (bs : Bytes) : Option String :=
  (decodeChars? bs).map String.ofList

/-- The characters spelled by `bs`, with `mark` for each byte that belongs to none. -/
def decodeMarking (mark : List Char) (bs : Bytes) : List Char :=
  match bs with
  | [] => []
  | b :: r =>
    match head? (b :: r) with
    | some c => c :: decodeMarking mark (r.drop (c.utf8Size - 1))
    | none => mark ++ decodeMarking mark r
termination_by bs.length
decreasing_by all_goals (simp only [List.length_drop, List.length_cons]; omega)

/-- The characters spelled by `bs`, with U+FFFD for what spells none. -/
def decodeLossyChars (bs : Bytes) : List Char :=
  match bs with
  | [] => []
  | b :: r =>
    match head? (b :: r) with
    | some c => c :: decodeLossyChars (r.drop (c.utf8Size - 1))
    | none => '\uFFFD' :: decodeLossyChars (r.drop (brokenLength (b :: r) - 1))
termination_by bs.length
decreasing_by all_goals (simp only [List.length_drop, List.length_cons]; omega)

/-- The text spelled by `bs`, with U+FFFD for what spells none. -/
def decodeLossy (bs : Bytes) : String :=
  String.ofList (decodeLossyChars bs)

end Utf8

end OpenIdProvider
