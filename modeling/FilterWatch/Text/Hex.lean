/-! Hexadecimal digits. They are written in lower case and read in either. -/

namespace FilterWatch.Text

def hexDigit (n : Nat) : Char :=
  if n < 10 then Char.ofNat ('0'.toNat + n) else Char.ofNat ('a'.toNat + (n - 10))

def hexValue? (c : Char) : Option Nat :=
  if '0' ≤ c ∧ c ≤ '9' then some (c.toNat - '0'.toNat)
  else if 'a' ≤ c ∧ c ≤ 'f' then some (c.toNat - 'a'.toNat + 10)
  else if 'A' ≤ c ∧ c ≤ 'F' then some (c.toNat - 'A'.toNat + 10)
  else none

/-- The lowest `width` digits of a number, the highest of them first. -/
def hexDigits (width n : Nat) : List Char :=
  (List.range width).reverse.map fun place => hexDigit (n / Nat.pow 16 place % 16)

/-- The number that digits spell. -/
def ofHex? (digits : List Char) : Option Nat :=
  digits.foldlM (fun value c => (hexValue? c).map (16 * value + ·)) 0

end FilterWatch.Text
