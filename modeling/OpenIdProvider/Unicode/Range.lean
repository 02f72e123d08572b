import OpenIdProvider.Text.Vlq

/-!
# Ranges of characters

Properties of characters as tables of ranges with a value each. The tables are
kept as numbers: the distance from the end of the range before, the length less
one, and the value. Ranges rise and do not meet, so `Range.value?` finds the only
one that holds a character.
-/

namespace OpenIdProvider.Unicode

/-- The code points from `first` to `last`, and a value. -/
structure Range where
  first : Nat
  last : Nat
  value : Nat
  deriving DecidableEq, Repr

namespace Range

/-- The ranges that numbers write, where `next` is the code point after the range
before. -/
def ofNumbers (next : Nat) : List Nat → List Range
  | distance :: length :: value :: r =>
    let first := next + distance
    ⟨first, first + length, value⟩ :: ofNumbers (first + length + 1) r
  | _ => []

/-- The ranges of a table. -/
def table (lines : List String) : List Range :=
  ofNumbers 0 (Vlq.decode lines)

/-- Whether a range holds a character. -/
def holds (r : Range) (c : Char) : Bool :=
  r.first ≤ c.toNat && c.toNat ≤ r.last

/-- The value of the range that holds a character. -/
def value? (rs : List Range) (c : Char) : Option Nat :=
  (rs.find? (holds · c)).map value

end Range

end OpenIdProvider.Unicode
