import OpenIdProvider.Json.Record
import OpenIdProvider.Text.Blank
import OpenIdProvider.Time.Calendar
import OpenIdProvider.Time.Instant

/-!
# Timestamps

The text of an instant: date, `T`, time, `Z`, with no fraction of a second or one
of 3, 6 or 9 digits, the fewest that are exact. A year outside 0 to 9999 has a
sign.

Reading is looser. It takes an offset from UTC for `Z`, a space or a small letter
for `T`, a small `z`, the name `UTC`, numbers with fewer digits, blanks around
numbers, more digits of a fraction than count, and 60 for a leap second.
-/

namespace OpenIdProvider.Instant

/-! ## Writing -/

/-- A year of four digits, or one with a sign and at least four digits. -/
def yearChars (y : Int) : List Char :=
  if 0 ≤ y && y ≤ 9999 then Decimal.padded 4 y.toNat
  else (if y < 0 then '-' else '+') :: Decimal.padded 4 y.natAbs

/-- The fraction of a second, with the fewest of 0, 3, 6 or 9 digits. -/
def fractionChars (nano : Nat) : List Char :=
  if nano = 0 then []
  else if nano % 1000000 = 0 then '.' :: Decimal.padded 3 (nano / 1000000)
  else if nano % 1000 = 0 then '.' :: Decimal.padded 6 (nano / 1000)
  else '.' :: Decimal.padded 9 nano

/-- The timestamp of an instant. -/
def chars (t : Instant) : List Char :=
  let date := Calendar.Date.ofDays (t.second / 86400)
  let time := (t.second % 86400).toNat
  let second := time % 60 + t.nano / 1000000000
  yearChars date.year ++ '-' :: Decimal.padded 2 date.month ++ '-' :: Decimal.padded 2 date.day
    ++ 'T' :: Decimal.padded 2 (time / 3600) ++ ':' :: Decimal.padded 2 (time / 60 % 60)
    ++ ':' :: Decimal.padded 2 second ++ fractionChars (t.nano % 1000000000) ++ ['Z']

/-- The timestamp of an instant. -/
def timestamp (t : Instant) : String :=
  String.ofList t.chars

/-! ## Reading -/

/-- A text without the blanks at its front. -/
def dropBlanks (s : List Char) : List Char :=
  s.dropWhile Text.isBlank

/-- The digits at the front, at most `width` of them and at least one, as a
number, with the text after them. -/
def readNumber? (width : Nat) (s : List Char) : Option (Nat × List Char) :=
  let ds := (s.take width).takeWhile Decimal.isDigit
  if ds.isEmpty then none else some (Decimal.value ds, s.drop ds.length)

/-- A number of at most two digits after blanks. -/
def readPair? (s : List Char) : Option (Nat × List Char) :=
  readNumber? 2 (dropBlanks s)

/-- A year after blanks: at most four digits, or any number of them after a
sign. -/
def readYear? (s : List Char) : Option (Int × List Char) :=
  match dropBlanks s with
  | '-' :: r => (readNumber? r.length r).map fun (n, rest) => (-(n : Int), rest)
  | '+' :: r => (readNumber? r.length r).map fun (n, rest) => ((n : Int), rest)
  | r => (readNumber? 4 r).map fun (n, rest) => ((n : Int), rest)

/-- The text after a character that blanks may precede. -/
def readMark? (c : Char) (s : List Char) : Option (List Char) :=
  match dropBlanks s with
  | d :: r => if d = c then some r else none
  | [] => none

/-- The nanoseconds of a fraction, if there is one. Digits after the ninth do not
count. -/
def readFraction? : List Char → Option (Nat × List Char)
  | '.' :: r =>
    let ds := r.takeWhile Decimal.isDigit
    let counted := ds.take 9
    if ds.isEmpty then none
    else some (Decimal.value counted * Nat.pow 10 (9 - counted.length), r.drop ds.length)
  | r => some (0, r)

/-- Two digits, the first one at most `top`. -/
def readTwo? (top : Char) : List Char → Option (Nat × List Char)
  | a :: b :: r =>
    if Decimal.isDigit a && a ≤ top && Decimal.isDigit b then some (Decimal.value [a, b], r)
    else none
  | _ => none

/-- An offset from UTC in seconds. -/
def readOffset? (s : List Char) : Option (Int × List Char) :=
  match s with
  | 'Z' :: r => some (0, r)
  | 'z' :: r => some (0, r)
  | a :: b :: c :: r =>
    if a.toUpper = 'U' && b.toUpper = 'T' && c.toUpper = 'C' then some (0, r)
    else if a = '+' || a = '-' || a = '−' then do
      let (hours, s) ← readTwo? '9' (b :: c :: r)
      let (minutes, s) ← readTwo? '5' (s.dropWhile fun c => c == ':' || Text.isBlank c)
      let offset : Int := hours * 3600 + minutes * 60
      if offset < 86400 then return (if a = '+' then offset else -offset, s) else none
    else none
  | _ => none

/-- The instant that a timestamp stands for. -/
def readChars? (s : List Char) : Option Instant := do
  let (year, s) ← readYear? s
  let s ← readMark? '-' s
  let (month, s) ← readPair? s
  let s ← readMark? '-' s
  let (day, s) ← readPair? s
  let s ← match s with
    | c :: r => if c = 'T' || c = 't' || c = ' ' then some r else none
    | [] => none
  let (hour, s) ← readPair? s
  let s ← readMark? ':' s
  let (minute, s) ← readPair? s
  let s ← readMark? ':' s
  let (second, s) ← readPair? s
  let (nano, s) ← readFraction? s
  let (offset, s) ← readOffset? (dropBlanks s)
  let date : Calendar.Date := ⟨year, month, day⟩
  if !(dropBlanks s).isEmpty || !date.valid || hour > 23 || minute > 59 || second > 60
    || year < -262143 || 262142 < year then none
  else
    let leap := if second = 60 then 1 else 0
    let time : Int := hour * 3600 + minute * 60 + (second - leap : Nat)
    ofParts? (date.toDays * 86400 + time - offset) (nano + leap * 1000000000)

/-- The instant that a timestamp stands for. -/
def read? (s : String) : Option Instant :=
  readChars? s.toList

/-- The JSON form of an instant is its timestamp. -/
def toJson (t : Instant) : Json :=
  .string t.timestamp

/-- Reads an instant from its timestamp. -/
def ofJson? : Json → Option Instant
  | .string s => read? s
  | _ => none

end OpenIdProvider.Instant
