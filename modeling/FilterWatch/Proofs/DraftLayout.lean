import FilterWatch.Proofs.DraftPlaces

/-! The bytes of a drafted table are the images of its records, one after the other, each at the
offset that the draft reckons with. -/

namespace FilterWatch
open Proofs.Outcomes

/-- A rule that has a record of its own size at every offset. -/
structure RuleDraft.Laid (rule : RuleDraft) (startOf : String → Except DraftError Nat) : Prop where
  short : rule.size < 65536
  content : ∀ offset, ∃ name data, rule.Content startOf offset name data

namespace RuleDraft.Laid

variable {rule : RuleDraft} {startOf : String → Except DraftError Nat}

theorem image_size (laid : rule.Laid startOf) (offset : Nat) : (rule.image startOf offset).size = rule.size := by
  obtain ⟨name, data, content⟩ := laid.content offset
  exact content.image_size

theorem image_next (laid : rule.Laid startOf) (offset : Nat) :
    (rule.image startOf offset).next = offset + rule.size := by
  rw [Record.next, laid.image_size]
  rfl

theorem encode (laid : rule.Laid startOf) (offset : Nat) :
    rule.encode startOf offset = .ok (rule.image startOf offset).bytes := by
  obtain ⟨name, data, content⟩ := laid.content offset
  exact content.encode

end RuleDraft.Laid

namespace Draft

/-- The records that rules become when the first stands at an offset. -/
def images (startOf : String → Except DraftError Nat) (offset : Nat) (rules : List RuleDraft) : List Record :=
  (placed RuleDraft.size offset rules).map fun place => place.2.image startOf place.1

variable {startOf : String → Except DraftError Nat} {offset : Nat}

theorem images_cons (rule : RuleDraft) (rest : List RuleDraft) :
    images startOf offset (rule :: rest) = rule.image startOf offset :: images startOf (offset + rule.size) rest := rfl

theorem images_append (first second : List RuleDraft) :
    images startOf offset (first ++ second) =
      images startOf offset first ++ images startOf (offset + totalSize first) second := by
  simp only [images, placed_append, List.map_append]

theorem images_singleton (rule : RuleDraft) : images startOf offset [rule] = [rule.image startOf offset] := rfl

theorem images_flatMap (records : α → List RuleDraft) (groups : List α) :
    images startOf offset (groups.flatMap records) =
      (placed (fun group => totalSize (records group)) offset groups).flatMap fun place =>
        images startOf place.1 (records place.2) := by
  simp only [images, placed_flatMap, List.map_flatMap]

theorem length_images (rules : List RuleDraft) : (images startOf offset rules).length = rules.length := by
  have same := congrArg List.length (placed_map_snd RuleDraft.size offset rules)
  rw [List.length_map] at same
  rw [images, List.length_map, same]

theorem mem_images {record : Record} {rules : List RuleDraft} (member : record ∈ images startOf offset rules) :
    ∃ rule ∈ rules, ∃ place, record = rule.image startOf place := by
  obtain ⟨⟨place, rule⟩, inside, rfl⟩ := List.mem_map.mp member
  exact ⟨rule, mem_of_placed inside, place, rfl⟩

theorem images_extent {rules : List RuleDraft} (laid : ∀ rule ∈ rules, rule.Laid startOf) :
    Record.extent (images startOf offset rules) = totalSize rules := by
  induction rules generalizing offset with
  | nil => rfl
  | cons rule rest ih =>
    rw [images_cons, Record.extent_cons, totalSize_cons, ih fun other member => laid other (by simp [member]),
      (laid rule (by simp)).image_size]

theorem images_consecutive {rules : List RuleDraft} (laid : ∀ rule ∈ rules, rule.Laid startOf) :
    Record.Consecutive offset (images startOf offset rules) := by
  induction rules generalizing offset with
  | nil => trivial
  | cons rule rest ih =>
    refine ⟨rfl, ?_⟩
    rw [(laid rule (by simp)).image_next]
    exact ih fun other member => laid other (by simp [member])

theorem images_announced {rules : List RuleDraft} (laid : ∀ rule ∈ rules, rule.Laid startOf) :
    ∀ record ∈ images startOf offset rules, record.Announced := by
  intro record member
  obtain ⟨rule, inside, place, rfl⟩ := mem_images member
  obtain ⟨name, data, content⟩ := (laid rule inside).content place
  exact content.image_announced (laid rule inside).short

theorem encode_images {rules : List RuleDraft} (laid : ∀ rule ∈ rules, rule.Laid startOf) :
    (placed RuleDraft.size offset rules).mapM (fun (place, rule) => rule.encode startOf place) =
      .ok ((images startOf offset rules).map Record.bytes) := by
  rw [images, List.map_map]
  exact mapM_of_ok fun place member => (laid place.2 (mem_of_placed member)).encode place.1

end Draft

namespace TableDraft

theorem build_eq {table : TableDraft} (laid : ∀ rule ∈ table.records, rule.Laid table.startOf) :
    table.build = .ok (table.info (Draft.totalSize table.records),
      (Draft.images table.startOf 0 table.records).flatMap Record.bytes) := by
  have size : Record.extent (Draft.images table.startOf 0 table.records) = _ := Draft.images_extent laid
  rw [Record.extent, List.flatMap_def] at size
  unfold build
  rw [Draft.encode_images laid]
  simp only [bind, Except.bind, size, List.flatMap_def]
  rfl

end TableDraft

end FilterWatch
