import OpenIdProvider.Text.Form
import OpenIdProvider.Text.Decimal

/-!
# Hosts

The host of a URL: a domain, an address of version 4 in any of its shorthand
spellings, or an address of version 6. Each has one canonical text.
-/

namespace OpenIdProvider

/-- The host of a URL. -/
inductive Host where
  | domain (name : String)
  /-- An address as a number of 32 bits. -/
  | ipv4 (address : Nat)
  /-- An address as eight pieces of 16 bits. -/
  | ipv6 (pieces : List Nat)
  deriving DecidableEq, Repr

namespace Host

/-! ## Version 4 -/

/-- A part of an address: decimal, octal after `0`, or hexadecimal after `0x`.
The parts `0` and `0x` alone are zero. -/
def ipv4Part? (s : List Char) : Option Nat :=
  let number (base : Nat) (ds : List Char) : Option Nat :=
    ds.foldlM (fun n c => (Hex.value? c).bind fun d =>
      if d < base then some (base * n + d) else none) 0
  match s with
  | [] => none
  | '0' :: 'x' :: ds => number 16 ds
  | '0' :: 'X' :: ds => number 16 ds
  | '0' :: d :: ds => number 8 (d :: ds)
  | ds => number 10 ds

/-- The parts of a text between dots, without an empty last one. -/
def dotParts (s : List Char) : List (List Char) :=
  let parts := Form.pieces '.' s
  if 1 < parts.length && parts.getLast? == some [] then parts.dropLast else parts

/-- Whether the last part of a domain is a number, which makes it an address. -/
def endsInNumber (s : List Char) : Bool :=
  match (dotParts s).getLast? with
  | none => false
  | some last => (!last.isEmpty && last.all Decimal.isDigit) || (ipv4Part? last).isSome

/-- The address that a text spells: the last part fills the bytes that the parts
before it leave. -/
def ipv4? (s : List Char) : Option Nat := do
  let parts ← (dotParts s).mapM ipv4Part?
  let count := parts.length
  let last ← parts.getLast?
  let front := parts.dropLast
  if 4 < count || 1 <<< (8 * (5 - count)) ≤ last || front.any (255 < ·) then none
  else return front.zipIdx.foldl (fun sum (n, i) => sum + n <<< (8 * (3 - i))) last

/-- The text of an address: four decimal bytes. -/
def ipv4Chars (a : Nat) : List Char :=
  ['.'].intercalate <| [a >>> 24, (a >>> 16) % 256, (a >>> 8) % 256, a % 256].map Decimal.digits

/-! ## Version 6 -/

/-- A piece of one to four hexadecimal digits. -/
def piece? (s : List Char) : Option Nat :=
  if s.isEmpty || 4 < s.length then none
  else s.foldlM (fun n c => (Hex.value? c).map (16 * n + ·)) 0

/-- A decimal byte without a leading zero. -/
def byte? (s : List Char) : Option Nat :=
  match s with
  | '0' :: _ :: _ => none
  | _ => (Decimal.natural? s).filter (· < 256)

/-- The two pieces that four decimal bytes stand for. -/
def dottedPieces? (s : List Char) : Option (List Nat) := do
  match ← (Form.pieces '.' s).mapM byte? with
  | [a, b, c, d] => return [256 * a + b, 256 * c + d]
  | _ => none

/-- The pieces between colons, where the last one may be written as four bytes. -/
def pieces? (dotted : Bool) (s : List Char) : Option (List Nat) :=
  if s.isEmpty then some []
  else do
    let parts := Form.pieces ':' s
    let front ← parts.dropLast.mapM piece?
    let last ← parts.getLast?
    if dotted && last.contains '.' then return front ++ (← dottedPieces? last)
    else return front ++ [← piece? last]

/-- The texts before and after the first `::`. -/
def splitGap? : List Char → Option (List Char × List Char)
  | ':' :: ':' :: r => some ([], r)
  | c :: r => (splitGap? r).map fun (before, after) => (c :: before, after)
  | [] => none

/-- The pieces of the address that a text spells. A gap stands for one or more
pieces of zero. -/
def ipv6? (s : List Char) : Option (List Nat) :=
  match splitGap? s with
  | none => (pieces? true s).filter (·.length == 8)
  | some (before, after) => do
    let front ← pieces? false before
    let back ← pieces? true after
    let count := front.length + back.length
    if count < 8 then return front ++ List.replicate (8 - count) 0 ++ back else none

/-- The length of the run of zeros at the front. -/
def zeroRun (ps : List Nat) : Nat :=
  (ps.takeWhile (· == 0)).length

/-- The start and the length of the first longest run of zeros. -/
def longestZeros : (index : Nat) → List Nat → Nat × Nat
  | _, [] => (0, 0)
  | i, p :: ps =>
    let here := zeroRun (p :: ps)
    let later := longestZeros (i + 1) ps
    if here ≠ 0 && later.2 ≤ here then (i, here) else later

/-- A piece in hexadecimal digits without leading zeros. -/
def pieceChars (n : Nat) : List Char :=
  let ds := [n / 4096 % 16, n / 256 % 16, n / 16 % 16, n % 16].map Hex.digit
  match ds.dropWhile (· == '0') with
  | [] => ['0']
  | ds => ds

/-- The text of an address, with a gap for the first longest run of at least two
zeros. -/
def ipv6Chars (ps : List Nat) : List Char :=
  let join (qs : List Nat) := [':'].intercalate (qs.map pieceChars)
  let (start, length) := longestZeros 0 ps
  if length < 2 then join ps
  else join (ps.take start) ++ ':' :: ':' :: join (ps.drop (start + length))

/-! ## Text -/

/-- The text of a host. -/
def chars : Host → List Char
  | domain name => name.toList
  | ipv4 a => ipv4Chars a
  | ipv6 ps => '[' :: ipv6Chars ps ++ [']']

/-- Whether a host is the machine itself: the name `localhost` in letters of
either case, an address of the network 127, or `::1`. -/
def isLoopback : Host → Bool
  | domain name => name.toLower == "localhost"
  | ipv4 a => a >>> 24 == 127
  | ipv6 ps => ps == [0, 0, 0, 0, 0, 0, 0, 1]

end Host

end OpenIdProvider
