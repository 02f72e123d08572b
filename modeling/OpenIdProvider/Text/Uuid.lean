import OpenIdProvider.Text.Hex

/-!
# UUIDs

Sixteen bytes written as 32 hexadecimal digits in five groups. They are read with
or without the hyphens, in braces, and after `urn:uuid:`, and written in lower
case with hyphens.
-/

namespace OpenIdProvider

/-- A UUID. -/
structure Uuid where
  bytes : Vector UInt8 16
  deriving DecidableEq

namespace Uuid

/-- The hexadecimal digits of a UUID with hyphens. -/
def hyphenated (ds : List Char) : List Char :=
  ds.take 8 ++ '-' :: (ds.drop 8).take 4 ++ '-' :: (ds.drop 12).take 4
    ++ '-' :: (ds.drop 16).take 4 ++ '-' :: ds.drop 20

/-- The text of a UUID. -/
def text (u : Uuid) : String :=
  String.ofList (hyphenated (Hex.encodeChars u.bytes.toList))

/-- The UUID of 32 hexadecimal digits. -/
def ofDigits? (ds : List Char) : Option Uuid := do
  let bs ← Hex.decodeChars? ds
  if h : bs.toArray.size = 16 then some ⟨⟨bs.toArray, h⟩⟩ else none

/-- The UUID of digits in five groups between hyphens. -/
def ofGroups? (s : List Char) : Option Uuid :=
  let ds := s.filter (· ≠ '-')
  if s = hyphenated ds then ofDigits? ds else none

/-- The text inside a pair of braces. -/
def unbraced? (s : List Char) : Option (List Char) :=
  if s.head? = some '\x7b' && s.getLast? = some '\x7d' then some (s.drop 1).dropLast else none

/-- Reads a UUID. -/
def read? (s : String) : Option Uuid :=
  let cs := s.toList
  if cs.length = 32 then ofDigits? cs
  else if cs.length = 36 then ofGroups? cs
  else if cs.length = 38 then (unbraced? cs).bind ofGroups?
  else if cs.length = 45 && cs.take 9 == "urn:uuid:".toList then ofGroups? (cs.drop 9)
  else none

/-- The random UUID of sixteen random bytes: six bits say that it is one. -/
def random (bytes : Vector UInt8 16) : Uuid :=
  ⟨(bytes.set 6 (bytes[6] &&& 0x0f ||| 0x40)).set 8 (bytes[8] &&& 0x3f ||| 0x80)⟩

end Uuid

end OpenIdProvider
