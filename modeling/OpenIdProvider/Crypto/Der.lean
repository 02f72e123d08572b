import OpenIdProvider.Crypto.Rsa

/-!
# Distinguished encoding

The elements of the distinguished encoding rules of ASN.1: a tag, a length in its
shortest form, and the content. Tags have one byte here, which is all that keys
and certificates use.
-/

namespace OpenIdProvider.Der

/-- An element: its tag and its content. -/
structure Element where
  tag : UInt8
  content : Bytes

/-- The tags in use. -/
def tagBoolean : UInt8 := 0x01
def tagInteger : UInt8 := 0x02
def tagBitString : UInt8 := 0x03
def tagOctetString : UInt8 := 0x04
def tagNull : UInt8 := 0x05
def tagOid : UInt8 := 0x06
def tagUtcTime : UInt8 := 0x17
def tagGeneralizedTime : UInt8 := 0x18
def tagSequence : UInt8 := 0x30
def tagSet : UInt8 := 0x31

/-- The length at the front, and the bytes after it: below 128 in one byte, else
in as few bytes as hold it, counted by the first one. -/
def readLength? : Bytes → Option (Nat × Bytes)
  | [] => none
  | b :: r =>
    if b < 0x80 then some (b.toNat, r)
    else
      let count := b.toNat - 128
      let ls := r.take count
      let n := Rsa.ofBytes ls
      if 1 ≤ count && count ≤ 4 && ls.length == count && 128 ≤ n && 1 <<< (8 * (count - 1)) ≤ n
          && n < 0x10000000 then
        some (n, r.drop count)
      else none

/-- The element at the front, and the bytes after it. -/
def read? : Bytes → Option (Element × Bytes)
  | [] => none
  | tag :: r => do
    let (n, r) ← readLength? r
    if tag &&& 0x1f == 0x1f || r.length < n then none else return (⟨tag, r.take n⟩, r.drop n)

/-- The content of the element at the front, which has a given tag, and the bytes
after it. -/
def expect? (tag : UInt8) (bs : Bytes) : Option (Bytes × Bytes) := do
  let (e, rest) ← read? bs
  if e.tag == tag then return (e.content, rest) else none

/-- The content of a byte string that is one element with a given tag. -/
def only? (tag : UInt8) (bs : Bytes) : Option Bytes := do
  let (content, rest) ← expect? tag bs
  if rest.isEmpty then return content else none

/-- The elements of a byte string, of which there are at most `count`. -/
def elements? : (count : Nat) → Bytes → Option (List Element)
  | _, [] => some []
  | 0, _ => none
  | n + 1, bs => do
    let (e, rest) ← read? bs
    return e :: (← elements? n rest)

/-- The number of an integer that is not negative: a leading zero byte only
before a byte with its high bit set. -/
def natural? : Bytes → Option Nat
  | [] => none
  | [b] => if b < 0x80 then some b.toNat else none
  | b :: c :: r =>
    if b < 0x80 && !(b == 0 && c < 0x80) then some (Rsa.ofBytes (b :: c :: r)) else none

/-- The natural number at the front, and the bytes after it. -/
def readNatural? (bs : Bytes) : Option (Nat × Bytes) := do
  let (content, rest) ← expect? tagInteger bs
  return (← natural? content, rest)

/-- The bytes of a bit string of whole bytes. -/
def bitBytes? : Bytes → Option Bytes
  | 0 :: r => some r
  | _ => none

/-! ## Writing -/

/-- A length in its shortest form. -/
def lengthBytes (n : Nat) : Bytes :=
  if n < 128 then [UInt8.ofNat n]
  else
    let bs := Rsa.toBytes n
    UInt8.ofNat (128 + bs.length) :: bs

/-- An element. -/
def write (tag : UInt8) (content : Bytes) : Bytes :=
  tag :: lengthBytes content.length ++ content

/-- An integer that is not negative. -/
def writeNatural (n : Nat) : Bytes :=
  let bs := Rsa.toBytes n
  write tagInteger (if (bs.headD 0) < 0x80 then bs else 0 :: bs)

end OpenIdProvider.Der
