import FilterWatch.Proofs.PrefixMasks
import FilterWatch.Proofs.TextParts

/-! What the text of an address test tells of it. A network is told by its address and, behind a slash, by its mask; a
range by its two ends, with a dash between them. Whatever has a text is determined by it. -/

namespace FilterWatch

namespace Address

theorem text_octets (address : Address) : address.text = address.first.toNat.repr ++ "." ++
    address.second.toNat.repr ++ "." ++ address.third.toNat.repr ++ "." ++ address.fourth.toNat.repr := rfl

theorem lacks_text (address : Address) {c : Char} (other : c.isDigit = false) (undotted : c ≠ '.') :
    Lacks address.text c := by
  have dot : Lacks "." c := by simpa [Lacks] using undotted
  simp only [text_octets, lacks_append, lacks_decimal _ other, dot, and_self]

theorem dotted_text (address : Address) : ¬ Lacks address.text '.' := by
  rw [text_octets]
  exact not_lacks_parted rfl

theorem decimal_ne_text (number : Nat) (address : Address) : number.repr ≠ address.text := by
  have undotted : Lacks number.repr '.' := lacks_decimal number (by decide)
  exact undotted.ne address.dotted_text

theorem text_inj {first second : Address} (same : first.text = second.text) : first = second := by
  have clean (address : Address) :
      ∀ part ∈ address.octets.map (fun octet => toString octet.toNat), Lacks part '.' ∧ part ≠ "" := by
    intro part member
    obtain ⟨octet, -, rfl⟩ := List.mem_map.mp member
    exact ⟨lacks_decimal _ (by decide), Nat.repr_ne_empty⟩
  have parts := joined_inj rfl (clean first) (clean second) same
  apply octets_inj
  exact List.map_injective_iff.mpr (fun _ _ equal => UInt8.toNat_inj.mp (Nat.repr_inj.mp equal)) parts

end Address

namespace AddressTest
open Address

/-- An address behind the sign of an inversion, where there is one. -/
def signed (inverted : Bool) (address : Address) : String := (if inverted then "!" else "") ++ address.text

/-- The text of a mask: the length of a prefix, where it has one. -/
def maskText (mask : Address) : String :=
  match mask.prefixLength? with
  | some length => length.repr
  | none => mask.text

variable {address mask other : Address} {inverted negated : Bool} {c : Char}

theorem lacks_signed (digit : c.isDigit = false) (undotted : c ≠ '.') (unmarked : c ≠ '!') :
    Lacks (signed inverted address) c := by
  have mark : Lacks (if inverted then "!" else "") c := by
    cases inverted with
    | false => exact List.not_mem_nil
    | true => simpa [Lacks] using unmarked
  exact lacks_append.mpr ⟨mark, address.lacks_text digit undotted⟩

theorem signed_inj (same : signed inverted address = signed negated other) : inverted = negated ∧ address = other := by
  have plain (unsigned : Address) : Lacks ("" ++ unsigned.text) '!' := by
    rw [String.empty_append]
    exact unsigned.lacks_text (by decide) (by decide)
  have marked (unsigned : Address) : ¬ Lacks ("!" ++ unsigned.text) '!' := by
    intro lacks
    exact absurd (lacks_append.mp lacks).1 (by decide)
  cases inverted with
  | false =>
    cases negated with
    | false => exact ⟨rfl, text_inj ((String.append_right_inj "").mp same)⟩
    | true => exact absurd same ((plain address).ne (marked other))
  | true =>
    cases negated with
    | false => exact absurd same.symm ((plain other).ne (marked address))
    | true => exact ⟨rfl, text_inj ((String.append_right_inj "!").mp same)⟩

theorem lacks_maskText (digit : c.isDigit = false) (undotted : c ≠ '.') : Lacks (maskText mask) c := by
  unfold maskText
  split
  · exact lacks_decimal _ digit
  · exact mask.lacks_text digit undotted

theorem maskText_eq_repr {count : Nat} : maskText mask = count.repr ↔ mask.prefixLength? = some count := by
  unfold maskText
  split
  next length told => simp only [told, Nat.repr_inj, Option.some.injEq]
  next untold => simp [untold, (decimal_ne_text count mask).symm]

theorem maskText_eq_text : maskText mask = mask.text ↔ mask.prefixLength? = none := by
  unfold maskText
  split
  next length told => simp [told, decimal_ne_text length mask]
  next untold => simp [untold]

theorem maskText_inj (same : maskText mask = maskText other) : mask = other := by
  cases told : mask.prefixLength? with
  | some count =>
    rw [maskText_eq_repr.mpr told] at same
    exact prefixLength?_inj told (maskText_eq_repr.mp same.symm)
  | none =>
    rw [maskText_eq_text.mpr told] at same
    cases listed : other.prefixLength? with
    | some count =>
      rw [maskText_eq_repr.mpr listed] at same
      exact absurd same.symm (decimal_ne_text count mask)
    | none => exact text_inj (same.trans (maskText_eq_text.mpr listed))

theorem network_text_eq_none :
    (network address mask inverted).text? = none ↔ address = .unspecified ∧ mask = .unspecified := by
  have shape : (network address mask inverted).text? = if address = .unspecified ∧ mask = .unspecified then none
      else some ((if inverted then "!" else "") ++ networkText address mask) := rfl
  rw [shape]
  split
  next bare => exact iff_of_true rfl bare
  next told => exact iff_of_false nofun told

/-- The text of a network is its address, or its address and its mask with a slash between them. -/
theorem network_text_eq_some {text : String} : (network address mask inverted).text? = some text ↔
    (address ≠ .unspecified ∧ mask = .unspecified) ∧ signed inverted address = text ∨
      mask ≠ .unspecified ∧ signed inverted address ++ "/" ++ maskText mask = text := by
  by_cases masked : mask = .unspecified
  · subst masked
    have whole : networkText address .unspecified = address.text := if_pos rfl
    simp [text?, whole, signed]
  · have parted : networkText address mask = address.text ++ "/" ++ maskText mask := by
      rw [networkText, if_neg masked, maskText]
      cases mask.prefixLength? <;> rfl
    simp [text?, parted, masked, signed, String.append_assoc]

/-- In a text with a slash, the text of the mask is behind it, and the address in front of it. -/
theorem network_text_eq_slashed {front tail : String} :
    (network address mask inverted).text? = some (front ++ "/" ++ tail) ↔
      mask ≠ .unspecified ∧ signed inverted address = front ∧ maskText mask = tail := by
  have head : Lacks (signed inverted address) '/' := lacks_signed (by decide) (by decide) (by decide)
  have behind : Lacks (maskText mask) '/' := lacks_maskText (by decide) (by decide)
  have parts : signed inverted address ++ "/" ++ maskText mask = front ++ "/" ++ tail ↔
      signed inverted address = front ∧ maskText mask = tail := by
    rw [eq_comm, parted_inj rfl head behind, eq_comm, @eq_comm _ tail]
  rw [network_text_eq_some, parts]
  exact or_iff_right fun bare => head.ne (not_lacks_parted rfl) bare.2

theorem ends_in_length_iff {count : Nat} :
    (∃ front, (network address mask inverted).text? = some (front ++ "/" ++ toString count)) ↔
      (1 ≤ count ∧ count ≤ 32) ∧ mask.LeadingOnes count := by
  rw [← prefixLength?_eq_some]
  constructor
  · rintro ⟨front, told⟩
    exact maskText_eq_repr.mp (network_text_eq_slashed.mp told).2.2
  · intro length
    obtain ⟨bounds, ones⟩ := prefixLength?_eq_some.mp length
    exact ⟨_, network_text_eq_slashed.mpr ⟨ones.specified bounds.1, rfl, maskText_eq_repr.mpr length⟩⟩

theorem ends_in_mask_iff : (∃ front, (network address mask inverted).text? = some (front ++ "/" ++ mask.text)) ↔
    mask ≠ .unspecified ∧ ¬ ∃ count, (1 ≤ count ∧ count ≤ 32) ∧ mask.LeadingOnes count := by
  rw [← prefixLength?_eq_none]
  constructor
  · rintro ⟨front, told⟩
    obtain ⟨masked, -, tail⟩ := network_text_eq_slashed.mp told
    exact ⟨masked, maskText_eq_text.mp tail⟩
  · rintro ⟨masked, scattered⟩
    exact ⟨_, network_text_eq_slashed.mpr ⟨masked, rfl, maskText_eq_text.mpr scattered⟩⟩

theorem slashless_iff : (∃ text, (network address mask inverted).text? = some text ∧ Lacks text '/') ↔
    address ≠ .unspecified ∧ mask = .unspecified := by
  constructor
  · rintro ⟨text, told, lacks⟩
    obtain ⟨bare, -⟩ | ⟨-, rfl⟩ := network_text_eq_some.mp told
    · exact bare
    · exact absurd lacks (not_lacks_parted rfl)
  · intro bare
    exact ⟨_, network_text_eq_some.mpr (.inl ⟨bare, rfl⟩), lacks_signed (by decide) (by decide) (by decide)⟩

theorem network_text_inj {text : String} {address mask base cover : Address}
    (told : (network address mask inverted).text? = some text)
    (same : (network base cover negated).text? = some text) :
    network address mask inverted = network base cover negated := by
  obtain ⟨⟨-, rfl⟩, rfl⟩ | ⟨masked, rfl⟩ := network_text_eq_some.mp told
  · obtain ⟨⟨-, rfl⟩, heads⟩ | covered := network_text_eq_some.mp same
    · obtain ⟨rfl, rfl⟩ := signed_inj heads
      rfl
    · rw [← covered.2, network_text_eq_slashed] at told
      exact absurd rfl told.1
  · obtain ⟨-, heads, tails⟩ := network_text_eq_slashed.mp same
    obtain ⟨rfl, rfl⟩ := signed_inj heads
    rw [maskText_inj tails]

theorem undashed_network {text : String} (told : (network address mask inverted).text? = some text) :
    Lacks text '-' := by
  have head : Lacks (signed inverted address) '-' := lacks_signed (by decide) (by decide) (by decide)
  obtain ⟨-, rfl⟩ | ⟨-, rfl⟩ := network_text_eq_some.mp told
  · exact head
  · rw [lacks_append, lacks_append]
    exact ⟨⟨head, by decide⟩, lacks_maskText (by decide) (by decide)⟩

theorem rangeText_eq (low high : Address) (inverted : Bool) :
    rangeText low high inverted = enclosed inverted (low.text ++ "-" ++ high.text) := by
  cases inverted with
  | false => rfl
  | true =>
    simp only [enclosed, if_true, ← String.append_assoc]
    rfl

theorem range_text_inj {low high lower upper : Address}
    (same : rangeText low high inverted = rangeText lower upper negated) :
    range low high inverted = range lower upper negated := by
  have undashed (address : Address) : Lacks address.text '-' := address.lacks_text (by decide) (by decide)
  have plain (low high : Address) : Lacks (low.text ++ "-" ++ high.text) '!' := by
    rw [lacks_append, lacks_append]
    exact ⟨⟨low.lacks_text (by decide) (by decide), by decide⟩, high.lacks_text (by decide) (by decide)⟩
  rw [rangeText_eq, rangeText_eq] at same
  obtain ⟨rfl, ends⟩ := enclosed_inj (plain low high) (plain lower upper) same
  obtain ⟨lows, highs⟩ := (parted_inj rfl (undashed lower) (undashed upper)).mp ends
  rw [text_inj lows, text_inj highs]

theorem dashed_range (low high : Address) (inverted : Bool) : ¬ Lacks (rangeText low high inverted) '-' := by
  have body : ¬ Lacks (low.text ++ "-" ++ high.text) '-' := not_lacks_parted rfl
  intro lacks
  rw [rangeText_eq, enclosed] at lacks
  split at lacks
  · exact body (lacks_append.mp (lacks_append.mp lacks).1).2
  · exact body lacks

theorem network_text_ne_range (address mask low high : Address) (inverted negated : Bool) :
    (network address mask inverted).text? ≠ (range low high negated).text? := by
  intro same
  exact dashed_range low high negated (undashed_network same)

theorem text_inj {first second : AddressTest} {text : String} (told : first.text? = some text)
    (same : second.text? = some text) : first = second := by
  cases first with
  | network address mask inverted =>
    cases second with
    | network base cover negated => exact network_text_inj told same
    | range low high negated => exact absurd (told.trans same.symm) (network_text_ne_range _ _ _ _ _ _)
  | range low high inverted =>
    cases second with
    | network base cover negated => exact absurd (same.trans told.symm) (network_text_ne_range _ _ _ _ _ _)
    | range lower upper negated => exact range_text_inj (Option.some.inj (told.trans same.symm))

/-- The text of a network ends in the length of a prefix exactly if its mask is one, in the mask itself if it has ones
elsewhere, and has no slash if the mask is zero. Tests that have a text, of either kind, are determined by it. -/
theorem text_unambiguous :
    (∀ (address mask : Address) (inverted : Bool),
      ((network address mask inverted).text? = none ↔ address = .unspecified ∧ mask = .unspecified) ∧
      (∀ count, (∃ front, (network address mask inverted).text? = some (front ++ "/" ++ toString count)) ↔
        (1 ≤ count ∧ count ≤ 32) ∧ mask.LeadingOnes count) ∧
      ((∃ front, (network address mask inverted).text? = some (front ++ "/" ++ mask.text)) ↔
        mask ≠ .unspecified ∧ ¬ ∃ count, (1 ≤ count ∧ count ≤ 32) ∧ mask.LeadingOnes count) ∧
      ((∃ text, (network address mask inverted).text? = some text ∧ Lacks text '/') ↔
        address ≠ .unspecified ∧ mask = .unspecified)) ∧
    ∀ first second : AddressTest, first.text? = second.text? ↔
      first = second ∨ first.text? = none ∧ second.text? = none := by
  constructor
  · intro address mask inverted
    exact ⟨network_text_eq_none, fun count => ends_in_length_iff, ends_in_mask_iff, slashless_iff⟩
  · intro first second
    constructor
    · intro same
      cases told : second.text? with
      | none => exact .inr ⟨same.trans told, rfl⟩
      | some text => exact .inl (text_inj (same.trans told) told)
    · rintro (rfl | ⟨first, second⟩)
      · rfl
      · rw [first, second]

end AddressTest

end FilterWatch
