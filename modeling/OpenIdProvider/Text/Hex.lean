import OpenIdProvider.Text.Utf8

/-!
# Hexadecimal text

Byte strings written with two lower-case hexadecimal digits a byte, and read
with digits of either case.
-/

namespace OpenIdProvider.Hex

/-- The lower-case digit of a value below 16. -/
def digit (n : Nat) : Char :=
  if n < 10 then Char.ofNat (48 + n) else Char.ofNat (87 + n)

/-- The upper-case digit of a value below 16. -/
def upperDigit (n : Nat) : Char :=
  if n < 10 then Char.ofNat (48 + n) else Char.ofNat (55 + n)

/-- The value of a hexadecimal digit of either case. -/
def value? (c : Char) : Option Nat :=
  if '0' ≤ c && c ≤ '9' then some (c.toNat - 48)
  else if 'a' ≤ c && c ≤ 'f' then some (c.toNat - 87)
  else if 'A' ≤ c && c ≤ 'F' then some (c.toNat - 55)
  else none

theorem value?_digit {n : Nat} (h : n < 16) : value? (digit n) = some n := by
  have hall : ∀ m ∈ List.range 16, value? (digit m) = some m := by decide
  exact hall n (List.mem_range.mpr h)

theorem value?_upperDigit {n : Nat} (h : n < 16) : value? (upperDigit n) = some n := by
  have hall : ∀ m ∈ List.range 16, value? (upperDigit m) = some m := by decide
  exact hall n (List.mem_range.mpr h)

/-- Two digits for each byte. -/
def encodeChars (bs : Bytes) : List Char :=
  bs.flatMap fun b => [digit (b.toNat / 16), digit (b.toNat % 16)]

/-- Two digits for each byte. -/
def encode (bs : Bytes) : String :=
  String.ofList (encodeChars bs)

/-- The bytes written by pairs of digits. -/
def decodeChars? : List Char → Option Bytes
  | [] => some []
  | [_] => none
  | a :: b :: r => do
    let x ← value? a
    let y ← value? b
    return UInt8.ofNat (16 * x + y) :: (← decodeChars? r)

/-- The bytes written by pairs of digits. -/
def decode? (s : String) : Option Bytes :=
  decodeChars? s.toList

/-- Whether a text consists of lower-case hexadecimal digits. -/
def isLower (s : String) : Bool :=
  s.toList.all fun c => ('0' ≤ c && c ≤ '9') || ('a' ≤ c && c ≤ 'f')

end OpenIdProvider.Hex
