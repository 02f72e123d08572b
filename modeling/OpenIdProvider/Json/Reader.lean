import OpenIdProvider.Json.Value
import OpenIdProvider.Text.Utf8

/-!
# Reading JSON text

`Json.parse?` reads a text that holds one JSON value between blanks, and
`Json.parseBytes?` reads the bytes of one. Values that are well formed but beyond
what a reading accepts become `Json.unreadable`: strings with half of a surrogate
pair or with bytes that are no characters, numbers that no double-precision
number can stand for, and containers nested more than 127 deep.
-/

namespace OpenIdProvider.Json

/-- The text after the blanks of the format at its front. -/
def skipBlanks (s : List Char) : List Char :=
  s.dropWhile fun c => c == ' ' || c == '\n' || c == '\r' || c == '\t'

/-! ## Strings -/

/-- A piece of a string: a character, or a UTF-16 unit given by its number. -/
inductive Piece where
  | char (c : Char)
  | unit (n : Nat)

/-- The character that follows a backslash in a short escape. -/
def shortEscape? (c : Char) : Option Char :=
  if c = '"' || c = '\\' || c = '/' then some c
  else if c = 'b' then some '\x08'
  else if c = 'f' then some '\x0c'
  else if c = 'n' then some '\n'
  else if c = 'r' then some '\r'
  else if c = 't' then some '\t'
  else none

/-- The pieces up to the closing quote, last piece first, and the text after it. -/
def pieces (acc : List Piece) : List Char → Option (List Piece × List Char)
  | [] => none
  | '"' :: r => some (acc, r)
  | '\\' :: 'u' :: a :: b :: c :: d :: r =>
    match Hex.value? a, Hex.value? b, Hex.value? c, Hex.value? d with
    | some w, some x, some y, some z =>
      pieces (.unit (((w * 16 + x) * 16 + y) * 16 + z) :: acc) r
    | _, _, _, _ => none
  | '\\' :: e :: r =>
    match shortEscape? e with
    | some c => pieces (.char c :: acc) r
    | none => none
  | c :: r => if c.toNat < 32 || c = '\\' then none else pieces (.char c :: acc) r

/-- Whether a unit is the first of a surrogate pair. -/
def isHighUnit (n : Nat) : Bool :=
  0xD800 ≤ n && n < 0xDC00

/-- Whether a unit is the second of a surrogate pair. -/
def isLowUnit (n : Nat) : Bool :=
  0xDC00 ≤ n && n < 0xE000

/-- The characters of pieces, or nothing if half of a surrogate pair is left. -/
def joinPieces? : List Piece → Option (List Char)
  | [] => some []
  | .char c :: r => (joinPieces? r).map (c :: ·)
  | .unit m :: .unit n :: r =>
    if isHighUnit m then
      if isLowUnit n then
        (joinPieces? r).map (Char.ofNat (0x10000 + (m - 0xD800) * 0x400 + (n - 0xDC00)) :: ·)
      else none
    else if isLowUnit m then none
    else (joinPieces? (.unit n :: r)).map (Char.ofNat m :: ·)
  | .unit m :: r =>
    if isHighUnit m || isLowUnit m then none else (joinPieces? r).map (Char.ofNat m :: ·)

/-- The string after an opening quote, none if half of a surrogate pair is in
it, and the text after the closing quote. -/
def stringBody? (s : List Char) : Option (Option String × List Char) :=
  (pieces [] s).map fun (ps, rest) => ((joinPieces? ps.reverse).map String.ofList, rest)

/-! ## Numbers -/

/-- The digits at the front, and the text after them. -/
def takeDigits (s : List Char) : List Char × List Char :=
  (s.takeWhile Decimal.isDigit, s.dropWhile Decimal.isDigit)

/-- The digits before the point: a single zero, or digits that do not begin with
one. -/
def wholePart? (s : List Char) : Option (List Char × List Char) :=
  match takeDigits s with
  | ([], _) => none
  | ('0' :: _ :: _, _) => none
  | found => some found

/-- The point and the digits after it, if there is a point. -/
def fractionPart? : List Char → Option (List Char × List Char)
  | '.' :: r =>
    match takeDigits r with
    | ([], _) => none
    | found => some found
  | r => some ([], r)

/-- The exponent with its letter, if there is one: the literal, its value and
the text after it. -/
def exponentPart? : List Char → Option (List Char × Int × List Char)
  | [] => some ([], 0, [])
  | e :: r =>
    if e = 'e' || e = 'E' then
      let (sign, r) := match r with
        | '+' :: t => (['+'], t)
        | '-' :: t => (['-'], t)
        | t => ([], t)
      match takeDigits r with
      | ([], _) => none
      | (ds, rest) =>
        let n : Int := Decimal.value ds
        some (e :: (sign ++ ds), if sign = ['-'] then -n else n, rest)
    else some ([], 0, e :: r)

/-- The number that digits spell behind the digits of `n`, as far as an unsigned
integer of 64 bits holds it, and the digits that are left. -/
def significand (n : Nat) : List Char → Nat × List Char
  | [] => (n, [])
  | d :: r =>
    let m := 10 * n + (d.toNat - 48)
    if m < UInt64.size then significand m r else (n, d :: r)

/-- The multiple of a power of two with 53 bits that is nearest to `n`; of two, the
one that is even. -/
def nearestDouble (n : Nat) : Nat :=
  let unit := Nat.pow 2 (n.log2 - 52)
  let below := n / unit
  let rest := 2 * (n % unit)
  if unit < rest || (rest == unit && below % 2 == 1) then (below + 1) * unit else below * unit

/-- Whether a number is too large for double precision. Of its digits only those
count that an unsigned integer of 64 bits holds. That integer and the power of ten
for the rest are rounded each, and it is their product that must round to a finite
number; one that is divided by its power of ten always does. -/
def exceedsDouble (whole fraction : List Char) (exponent : Int) : Bool :=
  let (n, more) := significand 0 whole
  let (n, unread) := significand n fraction
  let e := exponent + more.length - (fraction.length - unread.length : Nat)
  if n = 0 || e < 0 then false
  else if 308 < e then true
  else Nat.pow 2 1024 - Nat.pow 2 970 ≤ nearestDouble n * nearestDouble (Nat.pow 10 e.toNat)

/-- Whether `n` is an integer of 64 bits, with or without sign. -/
def isWord (n : Int) : Bool :=
  -(UInt64.size / 2 : Nat) ≤ n && n < UInt64.size

/-- The number whose digits begin a text, `negative` if a sign stood before them, and
the text after it. One that is too large is given up at its end, or at the digit at
which its exponent leaves the signed integers of 32 bits. -/
def magnitude? (negative : Bool) (s : List Char) : Option (Json × List Char) := do
  let (whole, s) ← wholePart? s
  let (fraction, s) ← fractionPart? s
  let (exponentText, exponent, s) ← exponentPart? s
  let m := Decimal.value (whole ++ fraction)
  let n : Int := if negative then -(m : Int) else m
  if fraction.isEmpty && exponentText.isEmpty && isWord n && !(negative && m == 0) then
    return (.integer n, s)
  else if exceedsDouble whole fraction exponent then
    return (.unreadable (exponent / 10 < (UInt32.size / 2 : Nat)), s)
  else
    let sign := if negative then ['-'] else []
    let point := if fraction.isEmpty then [] else '.' :: fraction
    return (.decimal (String.ofList (sign ++ whole ++ point ++ exponentText)), s)

/-- The number at the front, and the text after it. -/
def number? : List Char → Option (Json × List Char)
  | '-' :: r => magnitude? true r
  | r => magnitude? false r

/-! ## Values -/

/-- The deepest nesting that can be read. -/
def maxDepth : Nat := 127

/-- A container at a nesting depth, counted from 1. -/
def atDepth (depth : Nat) (j : Json) : Json :=
  if maxDepth < depth then .unreadable false else j

/-- An object, unless one of its keys cannot be read. -/
def ofMembers (ms : List (Option String × Json)) : Json :=
  match ms.mapM fun m => m.1.map (·, m.2) with
  | some ms => .object ms
  | none => .unreadable false

mutual

/-- The value at the front of a text, where `depth` containers are open, and the
text after it. -/
def value? : (fuel depth : Nat) → List Char → Option (Json × List Char)
  | 0, _, _ => none
  | fuel + 1, depth, s =>
    match skipBlanks s with
    | 'n' :: 'u' :: 'l' :: 'l' :: r => some (.null, r)
    | 't' :: 'r' :: 'u' :: 'e' :: r => some (.bool true, r)
    | 'f' :: 'a' :: 'l' :: 's' :: 'e' :: r => some (.bool false, r)
    | '"' :: r =>
      (stringBody? r).map fun (text, rest) => (text.elim (.unreadable true) .string, rest)
    | '[' :: r =>
      match skipBlanks r with
      | ']' :: rest => some (atDepth (depth + 1) (.array []), rest)
      | r =>
        (items? fuel (depth + 1) r).map fun (vs, rest) => (atDepth (depth + 1) (.array vs), rest)
    | '\x7b' :: r =>
      match skipBlanks r with
      | '\x7d' :: rest => some (atDepth (depth + 1) (.object []), rest)
      | r =>
        (members? fuel (depth + 1) r).map fun (ms, rest) =>
          (atDepth (depth + 1) (ofMembers ms), rest)
    | r => number? r

/-- The items up to the closing bracket, at least one. -/
def items? : (fuel depth : Nat) → List Char → Option (List Json × List Char)
  | 0, _, _ => none
  | fuel + 1, depth, s =>
    match value? fuel depth s with
    | none => none
    | some (v, r) =>
      match skipBlanks r with
      | ']' :: rest => some ([v], rest)
      | ',' :: r => (items? fuel depth r).map fun (vs, rest) => (v :: vs, rest)
      | _ => none

/-- The members up to the closing brace, at least one. -/
def members? : (fuel depth : Nat) → List Char → Option (List (Option String × Json) × List Char)
  | 0, _, _ => none
  | fuel + 1, depth, s =>
    match skipBlanks s with
    | '"' :: r =>
      match stringBody? r with
      | none => none
      | some (k, r) =>
        match skipBlanks r with
        | ':' :: r =>
          match value? fuel depth r with
          | none => none
          | some (v, r) =>
            match skipBlanks r with
            | '\x7d' :: rest => some ([(k, v)], rest)
            | ',' :: r => (members? fuel depth r).map fun (ms, rest) => ((k, v) :: ms, rest)
            | _ => none
        | _ => none
    | _ => none

end

/-- The value that a text holds between blanks. Each step of the reading either
takes a character or is followed by one that does, which bounds the steps. -/
def parseChars? (s : List Char) : Option Json :=
  match value? (2 * s.length + 2) 0 s with
  | some (j, rest) => if (skipBlanks rest).isEmpty then some j else none
  | none => none

/-- The value that a text holds between blanks. -/
def parse? (s : String) : Option Json :=
  parseChars? s.toList

/-- What stands for a byte that belongs to no character. The escape for half of a
surrogate pair makes a string that can be skipped but not read. The character before
it is an error, as the byte is, in the midst of an escape and outside of strings. -/
def malformedByte : List Char := ['\uFFFD', '\\', 'u', 'd', 'c', '0', '0']

/-- The value that bytes hold between blanks. -/
def parseBytes? (bs : Bytes) : Option Json :=
  parseChars? (Utf8.decodeMarking malformedByte bs)

end OpenIdProvider.Json
