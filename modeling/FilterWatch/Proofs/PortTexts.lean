import FilterWatch.Ports
import FilterWatch.Proofs.TextParts

/-! What the text of a port test tells of it. A range of one port has a sign of its own, a blank, and does not show
whether it is inverted. A range of several ports is told as the list of this one item is. Texts of tests that differ in
anything else are different. -/

namespace FilterWatch

namespace PortItem

theorem text_span (low high : UInt16) : (span low high).text = low.toNat.repr ++ "-" ++ high.toNat.repr := rfl

theorem lacks_text (item : PortItem) {c : Char} (other : c.isDigit = false) (undashed : c ≠ '-') :
    Lacks item.text c := by
  cases item with
  | single port => exact lacks_decimal _ other
  | span low high =>
    have dash : Lacks "-" c := by simpa [Lacks] using undashed
    rw [text_span, lacks_append, lacks_append]
    exact ⟨⟨lacks_decimal _ other, dash⟩, lacks_decimal _ other⟩

theorem text_ne_empty (item : PortItem) : item.text ≠ "" := by
  cases item with
  | single port => exact Nat.repr_ne_empty
  | span low high => simp [text_span, Nat.repr_ne_empty]

theorem text_inj {first second : PortItem} (same : first.text = second.text) : first = second := by
  have numeral (port : UInt16) : Lacks port.toNat.repr '-' := lacks_decimal _ (by decide)
  have dashed (low high : UInt16) : ¬ Lacks (span low high).text '-' := not_lacks_parted rfl
  cases first with
  | single port =>
    cases second with
    | single other => rw [UInt16.toNat_inj.mp (Nat.repr_inj.mp same)]
    | span low high => exact absurd same ((numeral port).ne (dashed low high))
  | span low high =>
    cases second with
    | single other => exact absurd same.symm ((numeral other).ne (dashed low high))
    | span lower upper =>
      rw [text_span, text_span, parted_inj rfl (numeral lower) (numeral upper)] at same
      rw [UInt16.toNat_inj.mp (Nat.repr_inj.mp same.1), UInt16.toNat_inj.mp (Nat.repr_inj.mp same.2)]

end PortItem

namespace PortTest

/-- The texts of the items, with a comma between them. -/
def joined (items : List PortItem) : String := ",".intercalate (items.map PortItem.text)

theorem text_list (items : List PortItem) (inverted : Bool) : (list items inverted).text = enclosed inverted (joined items) :=
  rfl

theorem text_one (port : UInt16) (inverted : Bool) : (range port port inverted).text = port.toNat.repr ++ " " := by
  rw [text, if_pos rfl]
  rfl

theorem text_several {low high : UInt16} (several : low ≠ high) (inverted : Bool) : (range low high inverted).text =
    enclosed inverted (low.toNat.repr ++ "-" ++ high.toNat.repr) := by
  rw [text, if_neg several]
  cases inverted with
  | false => rfl
  | true =>
    simp only [enclosed, if_true, ← String.append_assoc]
    rfl

theorem joined_single (ports : List UInt16) :
    joined (ports.map .single) = ",".intercalate (ports.map fun port => port.toNat.repr) := by
  rw [joined, List.map_map]
  rfl

theorem lacks_joined (items : List PortItem) {c : Char} (other : c.isDigit = false) (undashed : c ≠ '-')
    (apart : c ≠ ',') : Lacks (joined items) c := by
  have comma : Lacks "," c := by simpa [Lacks] using apart
  induction items with
  | nil => exact List.not_mem_nil
  | cons item rest ih =>
    cases rest with
    | nil => simpa [joined] using item.lacks_text other undashed
    | cons next others =>
      have behind : joined (item :: next :: others) = item.text ++ "," ++ joined (next :: others) :=
        String.intercalate_cons_cons
      rw [behind, lacks_append, lacks_append]
      exact ⟨⟨item.lacks_text other undashed, comma⟩, ih⟩

theorem joined_items_inj {items others : List PortItem} (same : joined items = joined others) : items = others := by
  have clean (list : List PortItem) : ∀ part ∈ list.map PortItem.text, Lacks part ',' ∧ part ≠ "" := by
    intro part member
    obtain ⟨item, -, rfl⟩ := List.mem_map.mp member
    exact ⟨item.lacks_text (by decide) (by decide), item.text_ne_empty⟩
  have parts := joined_inj rfl (clean items) (clean others) same
  exact List.map_injective_iff.mpr (fun _ _ => PortItem.text_inj) parts

theorem list_text_inj {items others : List PortItem} {inverted negated : Bool}
    (same : (list items inverted).text = (list others negated).text) : items = others ∧ inverted = negated := by
  have plain (list : List PortItem) : Lacks (joined list) '!' := lacks_joined list (by decide) (by decide) (by decide)
  rw [text_list, text_list] at same
  obtain ⟨inversion, bodies⟩ := enclosed_inj (plain items) (plain others) same
  exact ⟨joined_items_inj bodies, inversion⟩

theorem one_text_ne_list (port : UInt16) (items : List PortItem) (inverted : Bool) :
    port.toNat.repr ++ " " ≠ (list items inverted).text := by
  have blank : ¬ Lacks (port.toNat.repr ++ " ") ' ' := by
    intro lacks
    exact absurd (lacks_append.mp lacks).2 (by decide)
  have body : Lacks (joined items) ' ' := lacks_joined items (by decide) (by decide) (by decide)
  have unspaced : Lacks (list items inverted).text ' ' := by
    rw [text_list, enclosed]
    cases inverted with
    | false => exact body
    | true => exact lacks_append.mpr ⟨lacks_append.mpr ⟨by decide, body⟩, by decide⟩
  exact (unspaced.ne blank).symm

/-- The test that the text of a test tells. -/
def shown : PortTest → PortTest
  | range low high inverted => if low = high then range low high false else list [.span low high] inverted
  | list items inverted => list items inverted

theorem text_shown (test : PortTest) : test.shown.text = test.text := by
  cases test with
  | range low high inverted =>
    by_cases one : low = high
    · subst one
      rw [shown, if_pos rfl, text_one, text_one]
    · rw [shown, if_neg one, text, if_neg one]
      cases inverted <;> rfl
  | list items inverted => rfl

theorem shown_cases (test : PortTest) :
    (∃ port, test.shown = range port port false) ∨ ∃ items inverted, test.shown = list items inverted := by
  cases test with
  | range low high inverted =>
    by_cases one : low = high
    · subst one
      exact .inl ⟨low, if_pos rfl⟩
    · exact .inr ⟨_, _, if_neg one⟩
  | list items inverted => exact .inr ⟨_, _, rfl⟩

theorem text_eq_iff {first second : PortTest} : first.text = second.text ↔ first.shown = second.shown := by
  constructor
  · intro same
    rw [← first.text_shown, ← second.text_shown] at same
    obtain ⟨port, left⟩ | ⟨items, inverted, left⟩ := first.shown_cases
    · rw [left, text_one] at same
      obtain ⟨other, right⟩ | ⟨others, negated, right⟩ := second.shown_cases
      · rw [right, text_one] at same
        rw [left, right, UInt16.toNat_inj.mp (Nat.repr_inj.mp ((String.append_left_inj " ").mp same))]
      · rw [right] at same
        exact absurd same (one_text_ne_list port others negated)
    · rw [left] at same
      obtain ⟨other, right⟩ | ⟨others, negated, right⟩ := second.shown_cases
      · rw [right, text_one] at same
        exact absurd same.symm (one_text_ne_list other items inverted)
      · rw [right] at same
        obtain ⟨rfl, rfl⟩ := list_text_inj same
        rw [left, right]
  · intro same
    rw [← first.text_shown, ← second.text_shown, same]

/-- Ranges have the same text exactly if they have the same ends and, unless they are of one port, the same inversion. -/
theorem range_text_eq_iff {low high lower upper : UInt16} {inverted negated : Bool} :
    (range low high inverted).text = (range lower upper negated).text ↔
      low = lower ∧ high = upper ∧ (low = high ∨ inverted = negated) := by
  rw [text_eq_iff, shown, shown]
  constructor
  · intro same
    split at same
    next one =>
      subst one
      split at same
      next other =>
        cases same
        exact ⟨rfl, rfl, .inl rfl⟩
      next => cases same
    next several =>
      split at same
      next => cases same
      next =>
        cases same
        exact ⟨rfl, rfl, .inr rfl⟩
  · rintro ⟨rfl, rfl, one | rfl⟩
    · rw [if_pos one, if_pos one]
    · rfl

end PortTest

end FilterWatch
