/-!
# Decimal integers

Integers written in decimal digits without leading zeros, and read with an
optional sign from a text that holds nothing else. Each reading names the range
that the number has to lie in.
-/

namespace OpenIdProvider.Decimal

/-- The digit of a value below 10. -/
def digit (n : Nat) : Char :=
  Char.ofNat (48 + n)

/-- Whether a character is one of the ten ASCII digits. -/
def isDigit (c : Char) : Bool :=
  '0' ≤ c && c ≤ '9'

/-- The digits of a natural number, the first one zero only for zero. -/
def digits (n : Nat) : List Char :=
  if n < 10 then [digit n] else digits (n / 10) ++ [digit (n % 10)]
termination_by n
decreasing_by omega

/-- The number that digits spell. -/
def value (ds : List Char) : Nat :=
  ds.foldl (fun n c => 10 * n + (c.toNat - 48)) 0

theorem value_append_single (ds : List Char) (c : Char) :
    value (ds ++ [c]) = 10 * value ds + (c.toNat - 48) := by
  simp [value, List.foldl_append]

theorem toNat_digit {n : Nat} (h : n < 10) : (digit n).toNat - 48 = n := by
  have hall : ∀ m ∈ List.range 10, (digit m).toNat - 48 = m := by decide
  exact hall n (List.mem_range.mpr h)

theorem value_digits (n : Nat) : value (digits n) = n := by
  fun_induction digits n with
  | case1 n h => simpa [value] using toNat_digit h
  | case2 n h ih =>
    rw [value_append_single, ih, toNat_digit (Nat.mod_lt _ (by decide))]
    omega

/-- The characters of an integer, with a sign only below zero. -/
def intChars (n : Int) : List Char :=
  if n < 0 then '-' :: digits n.natAbs else digits n.natAbs

/-- The text of an integer, with a sign only below zero. -/
def ofInt (n : Int) : String :=
  String.ofList (intChars n)

/-- The text of a natural number. -/
def ofNat (n : Nat) : String :=
  String.ofList (digits n)

/-- The digits of `n`, filled up with zeros on the left to `width`. -/
def padded (width n : Nat) : List Char :=
  let ds := digits n
  List.replicate (width - ds.length) '0' ++ ds

/-- The number spelled by a text of digits alone, at least one. -/
def natural? (cs : List Char) : Option Nat :=
  if !cs.isEmpty && cs.all isDigit then some (value cs) else none

/-- The number below `bound` spelled by digits after an optional plus sign. -/
def unsigned? (bound : Nat) (s : String) : Option Nat :=
  let cs := match s.toList with
    | '+' :: r => r
    | r => r
  (natural? cs).filter (· < bound)

/-- The number from `-bound` to `bound - 1` spelled by digits after an optional
sign. -/
def signed? (bound : Nat) (s : String) : Option Int :=
  let n := match s.toList with
    | '-' :: r => (natural? r).map fun n => -(n : Int)
    | '+' :: r => (natural? r).map fun n => (n : Int)
    | r => (natural? r).map fun n => (n : Int)
  n.filter fun n => -(bound : Int) ≤ n && n < bound

end OpenIdProvider.Decimal
