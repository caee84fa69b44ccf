import Mathlib

/-! Texts that are put together from parts with a sign between them. The text determines the parts, provided that the
parts do not have the sign themselves. -/

namespace FilterWatch

/-- The character is nowhere in the text. -/
def Lacks (text : String) (c : Char) : Prop := c ∉ text.toList

instance (text : String) (c : Char) : Decidable (Lacks text c) := inferInstanceAs (Decidable (c ∉ text.toList))

variable {c : Char} {sign : String}

@[simp]
theorem lacks_append {first second : String} : Lacks (first ++ second) c ↔ Lacks first c ∧ Lacks second c := by
  unfold Lacks
  rw [String.toList_append, List.mem_append]
  exact not_or

theorem lacks_decimal (number : Nat) (other : c.isDigit = false) : Lacks number.repr c := by
  intro member
  rw [← Nat.toString_eq_repr, Nat.toString_eq_ofList_toDigits, String.toList_ofList] at member
  have digit := Nat.isDigit_of_mem_toDigits (by decide) (by decide) member
  exact absurd digit (Bool.eq_false_iff.mp other)

theorem Lacks.ne {first second : String} (without : Lacks first c) (present : ¬ Lacks second c) : first ≠ second := by
  intro same
  exact present (same ▸ without)

theorem not_lacks_parted (single : sign.toList = [c]) {first second : String} : ¬ Lacks (first ++ sign ++ second) c := by
  intro lacks
  have unsigned : Lacks sign c := (lacks_append.mp (lacks_append.mp lacks).1).2
  apply unsigned
  rw [single]
  exact List.mem_singleton_self c

theorem parted_inj (single : sign.toList = [c]) {first second other rest : String} (before : Lacks other c)
    (behind : Lacks rest c) :
    first ++ sign ++ second = other ++ sign ++ rest ↔ first = other ∧ second = rest := by
  constructor
  · intro same
    have letters : other.toList ++ c :: rest.toList = first.toList ++ c :: second.toList := by
      simpa [single] using congrArg String.toList same.symm
    obtain ⟨front, -, back⟩ := (List.append_cons_inj_of_notMem before behind).mp letters
    exact ⟨String.toList_inj.mp front.symm, String.toList_inj.mp back.symm⟩
  · rintro ⟨rfl, rfl⟩
    rfl

theorem splitOn_joined (single : sign.toList = [c]) {parts : List String} (clean : ∀ part ∈ parts, Lacks part c)
    (filled : parts ≠ []) : (sign.intercalate parts).toList.splitOn c = parts.map String.toList := by
  rw [String.toList_intercalate, single]
  apply List.splitOn_intercalate c
  · intro letters member
    obtain ⟨part, inside, rfl⟩ := List.mem_map.mp member
    exact clean part inside
  · intro vacant
    exact filled (List.map_eq_nil_iff.mp vacant)

theorem joined_eq_empty (single : sign.toList = [c]) {parts : List String}
    (clean : ∀ part ∈ parts, Lacks part c ∧ part ≠ "") : sign.intercalate parts = "" ↔ parts = [] := by
  constructor
  · intro empty
    apply Decidable.byContradiction
    intro filled
    have pieces := splitOn_joined single (fun part member => (clean part member).1) filled
    rw [empty, String.toList_empty, List.splitOn_nil] at pieces
    obtain ⟨part, member, blank⟩ : ∃ part ∈ parts, part.toList = [] := by
      apply List.mem_map.mp
      rw [← pieces]
      exact List.mem_singleton_self []
    exact (clean part member).2 (String.toList_eq_nil_iff.mp blank)
  · rintro rfl
    exact String.intercalate_nil

/-- What stands in a joined text stands in the sign or in a part. -/
theorem mem_intercalate {parts : List String} (member : c ∈ (sign.intercalate parts).toList) :
    c ∈ sign.toList ∨ ∃ part ∈ parts, c ∈ part.toList := by
  induction parts with
  | nil =>
    rw [String.intercalate_nil] at member
    cases member
  | cons part rest ih =>
    cases rest with
    | nil =>
      rw [String.intercalate_singleton] at member
      exact .inr ⟨part, List.mem_cons_self, member⟩
    | cons next rest =>
      simp only [String.intercalate_cons_cons, String.toList_append, List.mem_append] at member
      rcases member with (first | between) | behind
      · exact .inr ⟨part, List.mem_cons_self, first⟩
      · exact .inl between
      · exact (ih behind).imp_right fun ⟨other, inside, there⟩ => ⟨other, List.mem_cons_of_mem part inside, there⟩

/-- Parts that are not empty are told by the text that they are joined to, and so is their number. -/
theorem joined_inj (single : sign.toList = [c]) {first second : List String}
    (clean : ∀ part ∈ first, Lacks part c ∧ part ≠ "") (other : ∀ part ∈ second, Lacks part c ∧ part ≠ "")
    (same : sign.intercalate first = sign.intercalate second) : first = second := by
  by_cases empty : first = []
  · rw [(joined_eq_empty single clean).mpr empty] at same
    rw [empty, (joined_eq_empty single other).mp same.symm]
  have filled : second ≠ [] := by
    intro vacant
    rw [(joined_eq_empty single other).mpr vacant] at same
    exact empty ((joined_eq_empty single clean).mp same)
  have pieces : first.map String.toList = second.map String.toList := by
    rw [← splitOn_joined single (fun part member => (clean part member).1) empty, same,
      splitOn_joined single (fun part member => (other part member).1) filled]
  exact List.map_injective_iff.mpr (fun _ _ => String.toList_inj.mp) pieces

/-- The parts of a text, as a sign that none of them has divides it. -/
structure Parted (sign : Char) (value : String) (parts : List String) : Prop where
  joined : value = (String.singleton sign).intercalate parts
  some : parts ≠ []
  clean : ∀ part ∈ parts, Lacks part sign

theorem notMem_of_mem_splitOn (c : Char) (text : List Char) : ∀ part ∈ text.splitOn c, c ∉ part := by
  induction text with
  | nil => simp
  | cons first rest ih =>
    rw [List.splitOn_cons_eq_if_modifyHead]
    split
    · exact List.forall_mem_cons.mpr ⟨List.not_mem_nil, ih⟩
    next other =>
      obtain ⟨part, others, split⟩ := List.exists_cons_of_ne_nil (List.splitOn_ne_nil c rest)
      rw [split] at ih ⊢
      obtain ⟨here, later⟩ := List.forall_mem_cons.mp ih
      refine List.forall_mem_cons.mpr ⟨fun member => ?_, later⟩
      rcases List.mem_cons.mp member with rfl | inside
      · exact other (beq_self_eq_true _)
      · exact here inside

theorem parted_splitOn (c : Char) (value : String) : Parted c value ((value.toList.splitOn c).map String.ofList) := by
  refine ⟨?_, ?_, ?_⟩
  · apply String.toList_inj.mp
    have letters : String.toList ∘ String.ofList = id := funext fun part => String.toList_ofList
    rw [String.toList_intercalate, List.map_map, letters, List.map_id, String.toList_singleton]
    exact (List.intercalate_splitOn c).symm
  · simp
  · intro part member
    obtain ⟨letters, inside, rfl⟩ := List.mem_map.mp member
    unfold Lacks
    rw [String.toList_ofList]
    exact notMem_of_mem_splitOn c value.toList letters inside

/-- The body of a text, in brackets behind the sign of an inversion where there is one. -/
def enclosed (inverted : Bool) (body : String) : String := if inverted then "!(" ++ body ++ ")" else body

theorem enclosed_inj {inverted negated : Bool} {body other : String} (plain : Lacks body '!') (clean : Lacks other '!')
    (same : enclosed inverted body = enclosed negated other) : inverted = negated ∧ body = other := by
  have marked (inside : String) : ¬ Lacks ("!(" ++ inside ++ ")") '!' := by
    have mark : ¬ Lacks "!(" '!' := by decide
    intro lacks
    exact mark (lacks_append.mp (lacks_append.mp lacks).1).1
  cases inverted with
  | false =>
    cases negated with
    | false => exact ⟨rfl, same⟩
    | true => exact absurd same (plain.ne (marked other))
  | true =>
    cases negated with
    | false => exact absurd same.symm (clean.ne (marked body))
    | true =>
      have opened := (String.append_left_inj ")").mp same
      exact ⟨rfl, (String.append_right_inj "!(").mp opened⟩

end FilterWatch
