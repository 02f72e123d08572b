import OpenIdProvider.Text.Hex

/-!
# Percent encoding

A byte outside the kept set is written as `%` and two upper-case hexadecimal
digits. Decoding replaces every `%` that two digits follow and keeps any other
one as it stands.
-/

namespace OpenIdProvider.Percent

/-- The code of one byte. -/
def code (b : UInt8) : List Char :=
  ['%', Hex.upperDigit (b.toNat / 16), Hex.upperDigit (b.toNat % 16)]

/-- A text with the UTF-8 bytes of every character outside `kept` encoded. -/
def encode (kept : Char → Bool) (s : List Char) : List Char :=
  s.flatMap fun c => if kept c then [c] else (String.utf8EncodeChar c).flatMap code

/-- The bytes of a text with each code replaced by the byte that it stands for. -/
def decode : List Char → Bytes
  | '%' :: a :: b :: r =>
    match Hex.value? a, Hex.value? b with
    | some x, some y => UInt8.ofNat (16 * x + y) :: decode r
    | _, _ => String.utf8EncodeChar '%' ++ decode (a :: b :: r)
  | c :: r => String.utf8EncodeChar c ++ decode r
  | [] => []

end OpenIdProvider.Percent
