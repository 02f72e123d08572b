import OpenIdProvider.Text.Base64

/-!
# Numbers in base64 digits

A list of natural numbers as text: each number in digits of five bits, the least
one first, where a digit is a base64 character whose sixth bit says that the
number goes on. This is how the tables of characters are kept.
-/

namespace OpenIdProvider.Vlq

/-- The numbers that digits write, where the current number is `n` so far and its
next digit counts `weight`. Other characters are passed over. -/
def numbers (n weight : Nat) : List Char → List Nat
  | [] => []
  | c :: r =>
    match Base64.standard.value? c with
    | none => numbers n weight r
    | some d =>
      if d < 32 then (n + d * weight) :: numbers 0 1 r
      else numbers (n + (d - 32) * weight) (weight * 32) r

/-- The numbers that lines of digits write. -/
def decode (lines : List String) : List Nat :=
  numbers 0 1 (lines.flatMap String.toList)

/-- The integer that a natural number stands for: the even ones for the integers
from zero up, the odd ones for those below. -/
def signed (n : Nat) : Int :=
  if n % 2 = 0 then n / 2 else -((n + 1) / 2 : Nat)

end OpenIdProvider.Vlq
