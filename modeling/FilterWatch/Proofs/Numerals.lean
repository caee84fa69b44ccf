import FilterWatch.Settings
import Mathlib.Algebra.Group.Nat.Defs

/-! Numbers in settings. The bound is checked at every digit, which no later digit can undo, so a text is read as the
number of its digits exactly if this number is within the bound. -/

namespace FilterWatch.Reading

/-- The characters behind a plus sign, where there is one. -/
def unsignedPart (text : String) : List Char :=
  if text.toList.head? = some '+' then text.toList.tail else text.toList

/-- A text in decimal digits, at least one, with or without a plus sign before them, and their number. -/
structure Numeral (text : String) (number : Nat) : Prop where
  written : unsignedPart text ≠ []
  decimal : ∀ c ∈ unsignedPart text, c.isDigit = true
  number : Nat.ofDigitChars 10 (unsignedPart text) 0 = number

theorem le_ofDigitChars (digits : List Char) (value : Nat) : value ≤ Nat.ofDigitChars 10 digits value := by
  induction digits generalizing value with
  | nil => exact Nat.le_refl value
  | cons c rest ih =>
    rw [Nat.ofDigitChars_cons]
    exact Nat.le_trans (by omega) (ih _)

theorem digits_eq_ok {high value : Nat} {text : List Char} {result : Int} (within : value ≤ high) :
    digits 0 high 1 value text = .ok result ↔
      (∀ c ∈ text, c.isDigit = true) ∧ Nat.ofDigitChars 10 text value ≤ high ∧
        result = Nat.ofDigitChars 10 text value := by
  induction text generalizing value with
  | nil =>
    rw [Nat.ofDigitChars_nil]
    exact ⟨fun same => ⟨nofun, within, (Except.ok.inj same).symm⟩, fun ⟨_, _, same⟩ => congrArg Except.ok same.symm⟩
  | cons c rest ih =>
    by_cases digit : c.isDigit = true
    · have next : (value : Int) * 10 + 1 * ((c.toNat - '0'.toNat : Nat) : Int) =
          ((10 * value + (c.toNat - '0'.toNat) : Nat) : Int) := by
        push_cast
        omega
      have unfolded : digits 0 high 1 value (c :: rest) =
          if (high : Int) < (10 * value + (c.toNat - '0'.toNat) : Nat) then
            .error "number too large to fit in target type"
          else digits 0 high 1 (10 * value + (c.toNat - '0'.toNat) : Nat) rest := by
        rw [digits, digit?, if_pos digit]
        dsimp only
        rw [next, if_neg (Int.not_lt.mpr (Int.natCast_nonneg _))]
      rw [unfolded, Nat.ofDigitChars_cons]
      -- Digits behind only make the number larger, so the first value over the bound decides.
      by_cases large : high < 10 * value + (c.toNat - '0'.toNat)
      · rw [if_pos (by exact_mod_cast large)]
        have behind := le_ofDigitChars rest (10 * value + (c.toNat - '0'.toNat))
        exact iff_of_false nofun fun ⟨_, fits, _⟩ => absurd fits (by omega)
      · rw [if_neg (by exact_mod_cast large), ih (Nat.le_of_not_lt large)]
        simp [digit]
    · rw [digits, digit?, if_neg digit]
      exact iff_of_false nofun fun ⟨all, _⟩ => digit (all c (by simp))

/-- Without numbers below zero, a minus sign is read as a digit and refused. -/
theorem integer_eq_ok {high : Nat} {text : String} {result : Int} :
    integer 0 high text = .ok result ↔
      unsignedPart text ≠ [] ∧ digits 0 high 1 0 (unsignedPart text) = .ok result := by
  have minus (rest : List Char) : digits 0 high 1 0 ('-' :: rest) = .error invalidDigit := rfl
  unfold integer unsignedPart
  split
  next empty => simp [empty]
  next c single =>
    by_cases plus : c = '+'
    · simp [single, plus]
    by_cases negative : c = '-'
    · simp [single, negative, minus]
    · simp [single, plus, negative]
  next c rest more long =>
    by_cases plus : c = '+'
    · have behind : rest ≠ [] := more
      simp [long, plus, behind]
    · simp [long, plus]

theorem unsigned_eq_ok {bits : Nat} {text : String} {result : Int} :
    unsigned bits text = .ok result ↔ ∃ number, Numeral text number ∧ number < 2 ^ bits ∧ result = number := by
  have positive : 0 < 2 ^ bits := Nat.two_pow_pos bits
  have power : Int.pow 2 bits = ((2 ^ bits : Nat) : Int) := (Int.natCast_pow 2 bits).symm
  have bound : Int.pow 2 bits - 1 = ((2 ^ bits - 1 : Nat) : Int) := by omega
  have read : digits 0 (2 ^ bits - 1 : Nat) 1 0 (unsignedPart text) = .ok result ↔ _ := digits_eq_ok (Nat.zero_le _)
  rw [unsigned, bound, integer_eq_ok, read]
  constructor
  · rintro ⟨written, decimal, within, same⟩
    exact ⟨_, ⟨written, decimal, rfl⟩, Nat.lt_of_le_pred positive within, same⟩
  · rintro ⟨number, ⟨written, decimal, same⟩, small, result⟩
    exact ⟨written, decimal, same ▸ Nat.le_pred_of_lt small, by rw [same, result]⟩

end FilterWatch.Reading
