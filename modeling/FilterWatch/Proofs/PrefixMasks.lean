import FilterWatch.Address
import FilterWatch.Proofs.ByteReading

/-! Which masks have the length of a prefix. The bits of an address are counted in the order in which they travel, the
highest bit of the first byte being at place 0; a mask with a length has ones up to there and zeros behind. -/

namespace FilterWatch.Address

/-- The bit at one of the 32 places of an address. -/
def bit (address : Address) (place : Nat) : Bool := (address.octets.getD (place / 8) 0).toNat.testBit (7 - place % 8)

/-- The mask has ones at the first `count` places, and at the others zeros. -/
def LeadingOnes (mask : Address) (count : Nat) : Prop := ∀ place < 32, mask.bit place = decide (place < count)

variable {mask other : Address} {count length place : Nat}

theorem LeadingOnes.unique (ones : mask.LeadingOnes count) (others : mask.LeadingOnes length) (small : count ≤ 32)
    (bounded : length ≤ 32) : count = length := by
  have not_less {less more : Nat} (first : mask.LeadingOnes less) (second : mask.LeadingOnes more) (fits : more ≤ 32) :
      ¬ less < more := by
    intro fewer
    have inside : less < 32 := by omega
    have same := (first less inside).symm.trans (second less inside)
    rw [decide_eq_false (Nat.lt_irrefl less), decide_eq_true fewer] at same
    cases same
  have upper := not_less ones others bounded
  have lower := not_less others ones small
  omega

theorem octets_inj (same : mask.octets = other.octets) : mask = other := by
  cases mask
  cases other
  simpa [octets] using same

theorem toNat_inj (same : mask.toNat = other.toNat) : mask = other := by
  have digits (address : Address) : Bytes.ofNat 4 address.toNat = address.octets.reverse :=
    Bytes.ofNat_value address.octets.reverse
  apply octets_inj
  apply List.reverse_inj.mp
  rw [← digits, ← digits, same]

theorem toNat_lt (address : Address) : address.toNat < Nat.pow 2 32 := by
  have four : address.octets.reverse.length = 4 := rfl
  simpa [toNat, four] using Bytes.value_lt address.octets.reverse

theorem testBit_toNat (inside : place < 32) : mask.toNat.testBit (31 - place) = mask.bit place := by
  have byte : mask.octets.reverse.getD ((31 - place) / 8) 0 = mask.octets.getD (place / 8) 0 := by
    have last : (31 - place) / 8 = mask.octets.length - 1 - place / 8 := by
      have four : mask.octets.length = 4 := rfl
      omega
    have within : place / 8 < mask.octets.length := by
      have four : mask.octets.length = 4 := rfl
      omega
    rw [last, List.getD_eq_getElem?_getD, List.getD_eq_getElem?_getD, List.getElem?_reverse (by omega)]
    congr 2
    omega
  have rank : (31 - place) % 8 = 7 - place % 8 := by omega
  rw [toNat, Bytes.testBit_value, byte, rank, bit]

theorem prefixMask_lt (count : Nat) : prefixMask count < Nat.pow 2 32 := Nat.sub_lt (Nat.two_pow_pos 32) (Nat.two_pow_pos _)

theorem testBit_prefixMask (small : count ≤ 32) (inside : place < 32) :
    (prefixMask count).testBit (31 - place) = decide (place < count) := by
  have shifted : prefixMask count = 2 ^ (32 - count) * (2 ^ count - 1) := by
    rw [Nat.mul_sub, ← Nat.pow_add, Nat.sub_add_cancel small, Nat.mul_one]
    rfl
  rw [shifted, Nat.testBit_two_pow_mul, Nat.testBit_two_pow_sub_one, ← Bool.decide_and]
  apply decide_eq_decide.mpr
  omega

theorem prefixMask_eq_toNat_iff (small : count ≤ 32) : prefixMask count = mask.toNat ↔ mask.LeadingOnes count := by
  constructor
  · intro same place inside
    rw [← testBit_toNat inside, ← same, testBit_prefixMask small inside]
  · intro ones
    apply Nat.eq_of_testBit_eq
    intro place
    by_cases inside : place < 32
    · have mirrored : place = 31 - (31 - place) := by omega
      have there : 31 - place < 32 := by omega
      rw [mirrored, testBit_prefixMask small there, testBit_toNat there, ones _ there]
    · have wide : 2 ^ 32 ≤ 2 ^ place := Nat.pow_le_pow_right Nat.two_pos (Nat.not_lt.mp inside)
      rw [Nat.testBit_lt_two_pow (Nat.lt_of_lt_of_le (prefixMask_lt count) wide),
        Nat.testBit_lt_two_pow (Nat.lt_of_lt_of_le mask.toNat_lt wide)]

/-- The masks of a prefix, whose length is told in place of them. -/
theorem prefixLength?_eq_some :
    mask.prefixLength? = some count ↔ (1 ≤ count ∧ count ≤ 32) ∧ mask.LeadingOnes count := by
  have listed {length : Nat} : length ∈ List.range' 1 32 ↔ 1 ≤ length ∧ length ≤ 32 := by
    rw [List.mem_range'_1]
    omega
  have found {length : Nat} (told : mask.prefixLength? = some length) :
      (1 ≤ length ∧ length ≤ 32) ∧ mask.LeadingOnes length := by
    have bounds := listed.mp (List.mem_of_find?_eq_some told)
    have same : prefixMask length = mask.toNat := by
      rw [prefixLength?] at told
      simpa using List.find?_some told
    exact ⟨bounds, (prefixMask_eq_toNat_iff bounds.2).mp same⟩
  constructor
  · exact found
  · rintro ⟨bounds, ones⟩
    cases told : mask.prefixLength? with
    | none =>
      have differs := List.find?_eq_none.mp told count (listed.mpr bounds)
      exact absurd (decide_eq_true ((prefixMask_eq_toNat_iff bounds.2).mpr ones)) differs
    | some length =>
      obtain ⟨within, others⟩ := found told
      rw [others.unique ones within.2 bounds.2]

example : prefixLength? ⟨255, 252, 0, 0⟩ = some 14 := rfl

theorem prefixLength?_eq_none :
    mask.prefixLength? = none ↔ ¬ ∃ count, (1 ≤ count ∧ count ≤ 32) ∧ mask.LeadingOnes count := by
  simp only [← prefixLength?_eq_some, Option.eq_none_iff_forall_ne_some, not_exists]

theorem prefixLength?_inj (told : mask.prefixLength? = some count) (same : other.prefixLength? = some count) :
    mask = other := by
  obtain ⟨bounds, ones⟩ := prefixLength?_eq_some.mp told
  obtain ⟨-, others⟩ := prefixLength?_eq_some.mp same
  apply toNat_inj
  rw [← (prefixMask_eq_toNat_iff bounds.2).mpr ones, (prefixMask_eq_toNat_iff bounds.2).mpr others]

theorem LeadingOnes.specified (ones : mask.LeadingOnes count) (positive : 1 ≤ count) : mask ≠ unspecified := by
  rintro rfl
  have first : unspecified.bit 0 = true := by
    rw [ones 0 (by decide)]
    exact decide_eq_true positive
  cases first

end FilterWatch.Address
