import OpenIdProvider.Text.Utf8

/-!
# Base64

Byte strings written with 64 characters, three bytes in four characters. Two
alphabets are in use: `encode` and `decode?` take the standard one with `=`
padding, `encodeUrl` and `decodeUrl?` the URL-safe one without padding. Reading
is strict: it takes exactly the texts that writing produces, so the bits of the
last character that no byte uses are zero. `decodeJoined?` takes any number of
padded texts one after another.
-/

namespace OpenIdProvider.Base64

/-- The two characters in which the alphabets differ. -/
structure Alphabet where
  /-- The character of the value 62. -/
  char62 : Char
  /-- The character of the value 63. -/
  char63 : Char

/-- The standard alphabet. -/
def standard : Alphabet := ⟨'+', '/'⟩

/-- The alphabet that is safe in URLs. -/
def urlSafe : Alphabet := ⟨'-', '_'⟩

/-- The character of a six-bit value. -/
def Alphabet.char (a : Alphabet) (n : Nat) : Char :=
  if n < 26 then Char.ofNat (65 + n)
  else if n < 52 then Char.ofNat (71 + n)
  else if n < 62 then Char.ofNat (n - 4)
  else if n = 62 then a.char62 else a.char63

/-- The six-bit value of a character. -/
def Alphabet.value? (a : Alphabet) (c : Char) : Option Nat :=
  if 'A' ≤ c && c ≤ 'Z' then some (c.toNat - 65)
  else if 'a' ≤ c && c ≤ 'z' then some (c.toNat - 71)
  else if '0' ≤ c && c ≤ '9' then some (c.toNat + 4)
  else if c = a.char62 then some 62
  else if c = a.char63 then some 63
  else none

theorem Alphabet.standard_value?_char {n : Nat} (h : n < 64) :
    standard.value? (standard.char n) = some n := by
  have hall : ∀ m ∈ List.range 64, standard.value? (standard.char m) = some m := by decide
  exact hall n (List.mem_range.mpr h)

theorem Alphabet.urlSafe_value?_char {n : Nat} (h : n < 64) :
    urlSafe.value? (urlSafe.char n) = some n := by
  have hall : ∀ m ∈ List.range 64, urlSafe.value? (urlSafe.char m) = some m := by decide
  exact hall n (List.mem_range.mpr h)

/-- The characters of a byte string, without padding. -/
def Alphabet.encode (a : Alphabet) : Bytes → List Char
  | [] => []
  | [x] => [a.char (x.toNat / 4), a.char (x.toNat % 4 * 16)]
  | [x, y] =>
    [a.char (x.toNat / 4), a.char (x.toNat % 4 * 16 + y.toNat / 16), a.char (y.toNat % 16 * 4)]
  | x :: y :: z :: r =>
    a.char (x.toNat / 4) :: a.char (x.toNat % 4 * 16 + y.toNat / 16)
      :: a.char (y.toNat % 16 * 4 + z.toNat / 64) :: a.char (z.toNat % 64) :: a.encode r

/-- The bytes written by characters without padding. -/
def Alphabet.decode? (a : Alphabet) : List Char → Option Bytes
  | [] => some []
  | [_] => none
  | [c, d] => do
    let p ← a.value? c
    let q ← a.value? d
    if q % 16 = 0 then some [UInt8.ofNat (p * 4 + q / 16)] else none
  | [c, d, e] => do
    let p ← a.value? c
    let q ← a.value? d
    let r ← a.value? e
    if r % 4 = 0 then
      some [UInt8.ofNat (p * 4 + q / 16), UInt8.ofNat (q % 16 * 16 + r / 4)]
    else none
  | c :: d :: e :: f :: rest => do
    let p ← a.value? c
    let q ← a.value? d
    let r ← a.value? e
    let s ← a.value? f
    let tail ← a.decode? rest
    return UInt8.ofNat (p * 4 + q / 16) :: UInt8.ofNat (q % 16 * 16 + r / 4)
      :: UInt8.ofNat (r % 4 * 64 + s) :: tail

/-- The padding that fills the last group of four characters. -/
def padding (length : Nat) : List Char :=
  if length % 4 = 2 then ['=', '='] else if length % 4 = 3 then ['='] else []

/-- Standard characters with padding. -/
def encodeChars (bs : Bytes) : List Char :=
  let cs := standard.encode bs
  cs ++ padding cs.length

/-- A text without its last character, if that is `=`. -/
def dropPad (reversed : List Char) : List Char :=
  match reversed with
  | '=' :: r => r
  | r => r

/-- The bytes written by standard characters with padding. -/
def decodeChars? (cs : List Char) : Option Bytes :=
  let body := (dropPad (dropPad cs.reverse)).reverse
  if cs = body ++ padding body.length then standard.decode? body else none

/-- The bytes of four standard characters, of which the last one or two may be padding. -/
def quartet? (c d e f : Char) : Option Bytes :=
  if f ≠ '=' then standard.decode? [c, d, e, f]
  else if e ≠ '=' then standard.decode? [c, d, e]
  else standard.decode? [c, d]

/-- The bytes written by texts of standard characters, each with its padding, that follow one
another. -/
def decodeJoined? : List Char → Option Bytes
  | [] => some []
  | c :: d :: e :: f :: r => do return (← quartet? c d e f) ++ (← decodeJoined? r)
  | _ => none

/-- Standard base64 with padding. -/
def encode (bs : Bytes) : String :=
  String.ofList (encodeChars bs)

/-- Reads standard base64 with padding. -/
def decode? (s : String) : Option Bytes :=
  decodeChars? s.toList

/-- URL-safe base64 without padding. -/
def encodeUrl (bs : Bytes) : String :=
  String.ofList (urlSafe.encode bs)

/-- Reads URL-safe base64 without padding. -/
def decodeUrl? (s : String) : Option Bytes :=
  urlSafe.decode? s.toList

end OpenIdProvider.Base64
