import FilterWatch.Event
import FilterWatch.Proofs.TextParts
import Mathlib.Data.List.Basic
import Mathlib.Tactic.SplitIfs

/-! What stands in a JSON text: no control character below the blank, whatever stands in the texts that it tells. -/

namespace FilterWatch

/-- No character below the blank stands in the text. -/
def Unbroken (text : String) : Prop := ∀ c ∈ text.toList, 0x20 ≤ c.toNat

variable {first second sign : String}

@[simp]
theorem unbroken_append : Unbroken (first ++ second) ↔ Unbroken first ∧ Unbroken second := by
  unfold Unbroken
  rw [String.toList_append]
  exact List.forall_mem_append

theorem unbroken_intercalate (plain : Unbroken sign) {parts : List String} (each : ∀ part ∈ parts, Unbroken part) :
    Unbroken (sign.intercalate parts) := by
  intro c member
  rcases mem_intercalate member with between | ⟨part, inside, there⟩
  · exact plain c between
  · exact each part inside c there

theorem unbroken_decimal (number : Nat) : Unbroken (toString number) := by
  intro c member
  rw [Nat.toString_eq_ofList_toDigits, String.toList_ofList] at member
  have digit := Nat.isDigit_of_mem_toDigits (by decide) (by decide) member
  have zero : '0'.toNat ≤ c.toNat := by
    simp [Char.isDigit] at digit
    exact digit.1
  exact Nat.le_trans (by decide) zero

theorem Text.blank_le_hexDigit {digit : Nat} (single : digit < 16) : 0x20 ≤ (hexDigit digit).toNat := by
  revert digit
  decide

namespace Json

/-- A character is escaped by a letter or by four digits, or it stands for itself and is no control character. -/
theorem escape_cases (c : Char) : (∃ letter, escape c = ['\\', letter] ∧ 0x20 ≤ letter.toNat) ∨
    escape c = ['\\', 'u'] ++ Text.hexDigits 4 c.toNat ∨ escape c = [c] ∧ 0x20 ≤ c.toNat := by
  unfold escape
  split_ifs with _ _ _ _ _ _ _ control
  iterate 7 exact .inl ⟨_, rfl, by decide⟩
  · exact .inr (.inl rfl)
  · exact .inr (.inr ⟨rfl, Nat.not_lt.mp control⟩)

theorem blank_le_of_mem_escape {c shown : Char} (member : shown ∈ escape c) : 0x20 ≤ shown.toNat := by
  have backslash : 0x20 ≤ '\\'.toNat := by decide
  rcases escape_cases c with ⟨letter, escaped, plain⟩ | escaped | ⟨itself, plain⟩
  · rw [escaped] at member
    rcases List.mem_pair.mp member with rfl | rfl
    · exact backslash
    · exact plain
  · rw [escaped] at member
    rcases List.mem_append.mp member with mark | digit
    · rcases List.mem_pair.mp mark with rfl | rfl
      · exact backslash
      · decide
    · obtain ⟨place, -, rfl⟩ := List.mem_map.mp digit
      exact Text.blank_le_hexDigit (Nat.mod_lt _ (by decide))
  · rw [itself] at member
    rw [List.mem_singleton.mp member]
    exact plain

theorem unbroken_quote (text : String) : Unbroken (quote text) := by
  have letters : Unbroken (String.ofList (text.toList.flatMap escape)) := by
    intro shown member
    rw [String.toList_ofList] at member
    obtain ⟨c, -, inside⟩ := List.mem_flatMap.mp member
    exact blank_le_of_mem_escape inside
  have mark : Unbroken "\x22" := by simp [Unbroken]
  simp only [quote, unbroken_append]
  exact ⟨⟨mark, letters⟩, mark⟩

theorem unbroken_optional (text : Option String) : Unbroken (optional text) := by
  cases text with
  | none => simp [optional, Unbroken]
  | some text => exact unbroken_quote text

theorem unbroken_object {members : List (String × String)} (each : ∀ member ∈ members, Unbroken member.2) :
    Unbroken (object members) := by
  have plain : Unbroken "\x7b" ∧ Unbroken "," ∧ Unbroken ":" ∧ Unbroken "\x7d" := by simp [Unbroken]
  obtain ⟨opening, comma, colon, closing⟩ := plain
  simp only [object, unbroken_append]
  refine ⟨⟨opening, unbroken_intercalate comma ?_⟩, closing⟩
  intro part inside
  obtain ⟨member, own, rfl⟩ := List.mem_map.mp inside
  simp only [unbroken_append]
  exact ⟨⟨unbroken_quote member.1, colon⟩, each member own⟩

end Json

open Json

theorem FirewallRule.unbroken_json (rule : FirewallRule) : Unbroken rule.json := by
  apply unbroken_object
  intro member inside
  rcases List.mem_append.mp inside with fixed | optional
  · simp only [List.mem_cons, List.not_mem_nil, or_false] at fixed
    rcases fixed with rfl | rfl | rfl | rfl
    · exact unbroken_quote rule.chain
    · exact unbroken_decimal rule.priority
    · exact unbroken_optional _
    · exact unbroken_optional _
  · obtain ⟨⟨name, value⟩, -, rfl⟩ := List.mem_map.mp optional
    exact unbroken_optional value

/-- The line of an event is one line, even if there are line breaks in what the event tells. -/
theorem Event.unbroken_json {event : Event} {line : String} (written : event.json? = some line) : Unbroken line := by
  unfold json? at written
  dsimp only at written
  split at written
  · cases written
  · cases written
    have timestamp : Unbroken (object [("secs_since_epoch", toString event.header.timestamp.seconds.toNat),
        ("nanos_since_epoch", toString event.header.timestamp.nanos)]) := by
      apply unbroken_object
      exact List.forall_mem_cons.mpr ⟨unbroken_decimal _, List.forall_mem_singleton.mpr (unbroken_decimal _)⟩
    apply unbroken_object
    rw [List.forall_mem_cons, List.forall_mem_singleton]
    constructor
    · apply unbroken_object
      rw [List.forall_mem_cons, List.forall_mem_cons, List.forall_mem_cons, List.forall_mem_singleton]
      exact ⟨unbroken_quote _, unbroken_quote _, unbroken_quote _, timestamp⟩
    · apply unbroken_object
      rw [List.forall_mem_cons, List.forall_mem_singleton]
      exact ⟨unbroken_quote kindName, event.rule.unbroken_json⟩

end FilterWatch
