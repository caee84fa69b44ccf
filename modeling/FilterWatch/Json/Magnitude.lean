/-!
The size of a decimal number, as far as it matters whether a binary number of 64 bits with a point
can hold it. The digits are gathered in a significand of 64 bits; those it has no room for are
dropped. The significand and the power of ten are each rounded to 53 bits before they are
multiplied, so near the limit the outcome is that of the rounded factors.
-/

namespace FilterWatch.Json

/-- A decimal number without its sign: a significand times a power of ten. -/
structure Magnitude where
  significand : Nat
  exponent : Int
  deriving DecidableEq, Repr

namespace Magnitude

def digitValue (c : Char) : Nat := c.toNat - '0'.toNat

/-- Appends digits to a significand until one of them would exceed 64 bits. The digits from that one
on are left over. -/
def gather (significand : Nat) : List Char → Nat × List Char
  | [] => (significand, [])
  | c :: rest =>
    let next := significand * 10 + digitValue c
    if next < Nat.pow 2 64 then gather next rest else (significand, c :: rest)

/-- The magnitude of the digits before the point and behind it, times a power of ten. A digit left
over before the point still counts as a place. -/
def ofDigits (whole fraction : List Char) (exponent : Int) : Magnitude :=
  let (significand, places) := gather 0 whole
  let (significand, dropped) := gather significand fraction
  { significand
    exponent := exponent + places.length - (fraction.length - dropped.length : Nat) }

/-- The nearest number with at most 53 bits from the highest to the lowest that is set; the even one
of two that are as near. -/
def rounded (n : Nat) : Nat :=
  let unit := Nat.pow 2 (n.log2 - 52)
  let below := n / unit
  let rest := n % unit
  let roundsUp := unit < 2 * rest ∨ (unit = 2 * rest ∧ below % 2 = 1)
  (if roundsUp then below + 1 else below) * unit

/-- The least number that is rounded to more than the largest with 53 bits and a binary exponent of
11 bits. -/
def limit : Nat := Nat.pow 2 1024 - Nat.pow 2 970

/-- The powers of ten that are not beyond the limit by themselves. -/
def maxExponent : Nat := 308

/-- Whether the number is beyond the largest that 64 bits hold. -/
def overflows (m : Magnitude) : Bool :=
  match m.significand, m.exponent with
  | 0, _ | _, .negSucc _ => false
  | significand, .ofNat exponent =>
    maxExponent < exponent || limit ≤ rounded significand * rounded (Nat.pow 10 exponent)

end Magnitude

end FilterWatch.Json
