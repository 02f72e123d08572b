/-!
# Punycode

The encoding that writes a label of a domain with ASCII letters and digits: the
ASCII characters first, then the others as a chain of differences in digits of
variable weight. Labels here are lower case.
-/

namespace OpenIdProvider.Punycode

/-- The digit of a value below 36: the letters, then the decimal digits. -/
def digit (n : Nat) : Char :=
  if n < 26 then Char.ofNat (97 + n) else Char.ofNat (22 + n)

/-- The value of a digit of either case. -/
def value? (c : Char) : Option Nat :=
  if 'a' ≤ c && c ≤ 'z' then some (c.toNat - 97)
  else if 'A' ≤ c && c ≤ 'Z' then some (c.toNat - 65)
  else if '0' ≤ c && c ≤ '9' then some (c.toNat - 22)
  else none

/-- The threshold of the digit at position `k`, a multiple of 36. -/
def threshold (bias k : Nat) : Nat :=
  if k ≤ bias then 1 else if bias + 26 ≤ k then 26 else k - bias

theorem threshold_pos (bias k : Nat) : 1 ≤ threshold bias k := by
  unfold threshold
  repeat' split
  all_goals omega

/-- The part of the new bias that comes from dividing the difference down. -/
def shrink (delta k : Nat) : Nat :=
  if 455 < delta then shrink (delta / 35) (k + 36) else k + 36 * delta / (delta + 38)
termination_by delta
decreasing_by omega

/-- The bias after a difference, where `count` characters are written. -/
def adapt (delta count : Nat) (first : Bool) : Nat :=
  let d := if first then delta / 700 else delta / 2
  shrink (d + d / count) 0

/-! ## Encoding -/

/-- The digits of a difference. -/
def deltaDigits (bias k q : Nat) : List Char :=
  let t := threshold bias k
  if q < t then [digit q]
  else digit (t + (q - t) % (36 - t)) :: deltaDigits bias (k + 36) ((q - t) / (36 - t))
termination_by q
decreasing_by
  have := threshold_pos bias k
  have := Nat.div_le_self (q - threshold bias k) (36 - threshold bias k)
  omega

/-- What is known while a label is being written. -/
structure Progress where
  /-- The characters so far, last one first. -/
  reversed : List Char
  delta : Nat
  bias : Nat
  /-- How many characters of the label are written. -/
  handled : Nat

/-- Passes a character of the label while the character `n` is being written;
`basic` characters are ASCII. -/
def pass (basic n : Nat) (p : Progress) (c : Char) : Progress :=
  if c.toNat < n then { p with delta := p.delta + 1 }
  else if c.toNat = n then
    { reversed := (deltaDigits p.bias 36 p.delta).reverse ++ p.reversed
      delta := 0
      bias := adapt p.delta (p.handled + 1) (p.handled == basic)
      handled := p.handled + 1 }
  else p

/-- Writes the characters with the given numbers, in rising order, where `next`
is the least number not yet written. -/
def writeAll (label : List Char) (basic : Nat) : List Nat → Nat → Progress → Progress
  | [], _, p => p
  | n :: ns, next, p =>
    let p := label.foldl (pass basic n)
      { p with delta := p.delta + (n - next) * (p.handled + 1) }
    writeAll label basic ns (n + 1) { p with delta := p.delta + 1 }

/-- A label in ASCII, without a mark in front. -/
def encode (label : List Char) : List Char :=
  let basic := label.filter (·.toNat < 128)
  let others := ((label.map Char.toNat).filter (128 ≤ ·)).mergeSort.eraseDups
  let start := if basic.isEmpty then [] else '-' :: basic.reverse
  (writeAll label basic.length others 128 ⟨start, 0, 72, basic.length⟩).reversed.reverse

/-! ## Decoding -/

/-- The difference that the digits at the front spell, added to `i`, and the text
after them. -/
def readDelta? (bias : Nat) : (k i weight : Nat) → List Char → Option (Nat × List Char)
  | _, _, _, [] => none
  | k, i, w, c :: r => do
    let d ← value? c
    let i := i + d * w
    let t := threshold bias k
    if UInt32.size ≤ i then none
    else if d < t then return (i, r)
    else readDelta? bias (k + 36) i (w * (36 - t)) r

/-- The label after the differences in `s`, where `count` bounds their number. -/
def insertAll? : (count : Nat) → (n i bias : Nat) → List Char → List Char → Option (List Char)
  | _, _, _, _, label, [] => some label
  | 0, _, _, _, _, _ => none
  | count + 1, n, i, bias, label, s => do
    let (j, rest) ← readDelta? bias 36 i 1 s
    let length := label.length + 1
    let m := n + j / length
    let at_ := j % length
    if m < 0xD800 || (0xDFFF < m && m < 0x110000) then
      insertAll? count m (at_ + 1) (adapt (j - i) length (i == 0))
        (label.take at_ ++ Char.ofNat m :: label.drop at_) rest
    else none

/-- The parts of a text before its last hyphen and after it; a text without one
is all after it. -/
def splitLast (s : List Char) : List Char × List Char :=
  let back := s.reverse
  let after := back.takeWhile (· ≠ '-')
  ((back.drop (after.length + 1)).reverse, after.reverse)

/-- The label that an ASCII text stands for. -/
def decode? (s : List Char) : Option (List Char) :=
  let (basic, deltas) := splitLast s
  if basic.all (·.toNat < 128) then insertAll? (s.length + 1) 128 0 72 basic deltas else none

end OpenIdProvider.Punycode
