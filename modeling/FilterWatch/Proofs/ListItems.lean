import FilterWatch.Proofs.ChainFilter
import FilterWatch.Proofs.LastSettings
import FilterWatch.Proofs.TextParts

/-! Lists in settings. Of the parts between commas those without a character are left out, and the others give an item
each, without the blanks around it. A part of blanks is not left out, so that its item is empty. -/

namespace FilterWatch

namespace Text

/-- There is nothing but blanks in the text. -/
def Blank (text : String) : Prop := ∀ c ∈ text.toList, isBlank c = true

instance (text : String) : Decidable (Blank text) := decidable_of_iff (text.toList.all isBlank = true) List.all_eq_true

/-- A text without the blanks around it: it neither begins nor ends with one. -/
structure Trims (text item : String) : Prop where
  around : ∃ before after, text = before ++ item ++ after ∧ Blank before ∧ Blank after
  first : ∀ c ∈ item.toList.head?, isBlank c = false
  last : ∀ c ∈ item.toList.getLast?, isBlank c = false

theorem not_blank_head?_dropWhile (text : List Char) : ∀ c ∈ (text.dropWhile isBlank).head?, isBlank c = false := by
  intro c head
  have kept := List.head?_dropWhile_not isBlank text
  rw [head] at kept
  exact kept

theorem trims_trim (text : String) : Trims text (String.ofList (trim text.toList)) := by
  have blank (letters : List Char) : Blank (String.ofList (letters.takeWhile isBlank)) := by
    intro c member
    rw [String.toList_ofList] at member
    exact List.mem_takeWhile_imp member
  -- The rest behind the blanks in front, from its end.
  have back := (List.takeWhile_append_dropWhile (p := isBlank) (l := (text.toList.dropWhile isBlank).reverse)).symm
  have middle : text.toList.dropWhile isBlank = trim text.toList ++
      ((text.toList.dropWhile isBlank).reverse.takeWhile isBlank).reverse := by
    rw [trim, ← List.reverse_append, ← back, List.reverse_reverse]
  refine ⟨⟨String.ofList (text.toList.takeWhile isBlank),
    String.ofList ((text.toList.dropWhile isBlank).reverse.takeWhile isBlank).reverse, ?_, blank _, ?_⟩, ?_, ?_⟩
  · apply String.toList_inj.mp
    simp only [String.toList_append, String.toList_ofList]
    rw [List.append_assoc, ← middle, List.takeWhile_append_dropWhile]
  · intro c member
    rw [String.toList_ofList, List.mem_reverse] at member
    exact List.mem_takeWhile_imp member
  · intro c head
    rw [String.toList_ofList] at head
    apply not_blank_head?_dropWhile text.toList
    rw [middle, List.head?_append, head]
    rfl
  · intro c last
    rw [String.toList_ofList, trim, List.getLast?_reverse] at last
    exact not_blank_head?_dropWhile _ c last

theorem Trims.eq_empty {text item : String} (trims : Trims text item) : item = "" ↔ Blank text := by
  obtain ⟨⟨before, after, rfl, front, back⟩, first, -⟩ := trims
  constructor
  · rintro rfl c member
    simp only [String.toList_append, String.toList_empty, List.append_nil, List.mem_append] at member
    exact member.elim (front c) (back c)
  · intro blank
    cases head : item.toList.head? with
    | none => exact String.toList_eq_nil_iff.mp (List.head?_eq_none_iff.mp head)
    | some c =>
      have inside : c ∈ (before ++ item ++ after).toList := by
        simp only [String.toList_append, List.mem_append]
        exact .inl (.inr (List.mem_of_mem_head? head))
      exact absurd ((first c head).symm.trans (blank c inside)) Bool.false_ne_true

end Text

open Text

variable {value : String} {parts : List String}

namespace Settings

theorem items_of_parted (parted : Parted ',' value parts) :
    items value = (parts.filter (· ≠ "")).map fun part => String.ofList (trim part.toList) := by
  have pieces : value.toList.splitOn ',' = parts.map String.toList := by
    rw [parted.joined]
    exact splitOn_joined (String.toList_singleton _) parted.clean parted.some
  have same (part : String) : decide (part.toList ≠ []) = decide (part ≠ "") :=
    decide_eq_decide.mpr (not_congr String.toList_eq_nil_iff)
  simp only [items, pieces, List.filter_map, List.map_map, Function.comp_def, same]

theorem items_trimmed (parted : Parted ',' value parts) : List.Forall₂ Trims (parts.filter (· ≠ "")) (items value) := by
  rw [items_of_parted parted, List.forall₂_map_right_iff, List.forall₂_same]
  intro part _
  exact trims_trim part

theorem empty_mem_items (parted : Parted ',' value parts) :
    "" ∈ items value ↔ ∃ part ∈ parts, Blank part ∧ part ≠ "" := by
  rw [items_of_parted parted, List.mem_map]
  simp only [List.mem_filter, decide_eq_true_iff]
  constructor
  · rintro ⟨part, ⟨member, filled⟩, empty⟩
    exact ⟨part, member, (trims_trim part).eq_empty.mp empty, filled⟩
  · rintro ⟨part, member, blank, filled⟩
    exact ⟨part, ⟨member, filled⟩, (trims_trim part).eq_empty.mpr blank⟩

/-- Without its empty items a list has one item for each part that is not blank. -/
theorem items_filled (parted : Parted ',' value parts) :
    List.Forall₂ Trims (parts.filter (¬ Blank ·)) ((items value).filter (· ≠ "")) := by
  have chosen (part : String) : (decide (String.ofList (trim part.toList) ≠ "") && decide (part ≠ "")) =
      decide (¬ Blank part) := by
    rw [← Bool.decide_and, decide_eq_decide, Ne, (trims_trim part).eq_empty]
    refine and_iff_left_of_imp fun filled empty => filled ?_
    rw [empty]
    exact nofun
  rw [items_of_parted parted, List.filter_map, List.filter_filter, List.forall₂_map_right_iff]
  simp only [Function.comp_def, chosen]
  rw [List.forall₂_same]
  intro part _
  exact trims_trim part

/-- A list has no empty item exactly if it has an item for none but the parts that are not blank. -/
theorem items_filled_iff (parted : Parted ',' value parts) :
    List.Forall₂ Trims (parts.filter (¬ Blank ·)) (items value) ↔ ∀ part ∈ parts, Blank part → part = "" := by
  have filled := items_filled parted
  have none : "" ∉ items value ↔ ∀ part ∈ parts, Blank part → part = "" := by
    rw [empty_mem_items parted]
    simp only [not_exists, not_and, not_not]
  rw [← none]
  constructor
  · intro each empty
    have all : ((items value).filter (· ≠ "")).length = (items value).length :=
      filled.length_eq.symm.trans each.length_eq
    simpa using List.length_filter_eq_length_iff.mp all "" empty
  · intro without
    have all : (items value).filter (· ≠ "") = items value :=
      List.filter_eq_self.mpr fun item member => decide_eq_true fun empty => without (empty ▸ member)
    rwa [all] at filled

end Settings

namespace CollectorConfig

variable {settings : Settings} {config : CollectorConfig}

theorem chains_of_setting (told : settings.get? "chains" = some value) (read : ofSettings settings = .ok config) :
    config.chains = Settings.items value := by
  have chains := (ofSettings_eq_ok.mp read).chains
  rw [told] at chains
  exact chains

/-- Without the setting on chains, the same is told of everything else. -/
theorem ofSettings_unlisted {other : Settings} (same : ∀ key, key ≠ "chains" → other.get? key = settings.get? key)
    (unlisted : other.get? "chains" = none) (read : ofSettings settings = .ok config) :
    ofSettings other = .ok { config with chains := [] } := by
  have describes := ofSettings_eq_ok.mp read
  refine ofSettings_eq_ok.mpr ⟨?_, ?_, ?_, ?_, ?_, ?_⟩
  · rw [same _ (by decide)]
    exact describes.interval
  · rw [same _ (by decide)]
    exact describes.enabled
  · rw [same _ (by decide)]
    exact describes.table
  · rw [unlisted]
    rfl
  · rw [same _ (by decide)]
    exact describes.abortOnError
  · rw [same _ (by decide)]
    exact describes.outputFormat

theorem reports_of_empty (some : config.chains ≠ []) (empty : ∀ name ∈ config.chains, name = "") (name : String) :
    config.reports name = true ↔ name = "" := by
  obtain ⟨first, rest, chains⟩ := List.exists_cons_of_ne_nil some
  have present : "" ∈ config.chains := by
    rw [← empty first (by rw [chains]; exact List.mem_cons_self), chains]
    exact List.mem_cons_self
  rw [reports, List.isEmpty_eq_false_iff.mpr some, Bool.false_or, List.contains_iff_mem]
  exact ⟨empty name, fun same => same ▸ present⟩

end CollectorConfig

theorem Collector.collect_of_unreported {config : CollectorConfig} {source : TableSource} {table : Table}
    (answered : (source config.table).value = .ok (some table))
    (unwanted : ∀ chain ∈ table.chains, config.reports chain.name = false) :
    (collect source config).value = .ok (some []) := by
  have none : reported config table = [] :=
    List.filter_eq_nil_iff.mpr fun chain member => by rw [unwanted chain member]; exact Bool.false_ne_true
  rw [(collect_of_table config answered).1, collectTable_value, none]
  rfl

namespace Settings

/-- A list of texts has an item for every part between commas that is not without any character, in the order of the
parts and without the blanks around it. So it leaves out the parts of blanks exactly if there are none, and otherwise
has empty items in their place. Chains to report that are told in commas and blanks are all chains, as without the
setting, exactly if they are told in commas alone; otherwise no chain with a name is reported. -/
theorem list_of_parts (settings : Settings) (key : String) :
    (settings.get? key = none → settings.list Reading.text key = .ok []) ∧
    (∀ value, settings.get? key = some value → (∃ parts, Parted ',' value parts) ∧ ∀ parts, Parted ',' value parts →
      ∃ items, settings.list Reading.text key = .ok items ∧ List.Forall₂ Trims (parts.filter (· ≠ "")) items ∧
        List.Forall₂ Trims (parts.filter (¬ Blank ·)) (items.filter (· ≠ "")) ∧
        (List.Forall₂ Trims (parts.filter (¬ Blank ·)) items ↔ ∀ part ∈ parts, Blank part → part = "")) ∧
    ∀ value parts config, settings.get? "chains" = some value → Parted ',' value parts → (∀ part ∈ parts, Blank part) →
      CollectorConfig.ofSettings settings = .ok config →
        (∀ other : Settings, (∀ key, key ≠ "chains" → other.get? key = settings.get? key) →
          other.get? "chains" = none → CollectorConfig.ofSettings other = .ok { config with chains := [] }) ∧
        (config.chains = [] ↔ ∀ part ∈ parts, part = "") ∧
        ((∃ part ∈ parts, part ≠ "") → (∀ name, config.reports name = true ↔ name = "") ∧
          ∀ (source : TableSource) table, (source config.table).value = .ok (some table) →
            (∀ chain ∈ table.chains, chain.name ≠ "") → (Collector.collect source config).value = .ok (some [])) := by
  refine ⟨fun missing => ?_, fun value told => ⟨⟨_, parted_splitOn ',' value⟩, fun parts parted => ?_⟩, ?_⟩
  · rw [list_text, missing]
    rfl
  · refine ⟨items value, ?_, items_trimmed parted, items_filled parted, items_filled_iff parted⟩
    rw [list_text, told]
    rfl
  · intro value parts config told parted blank read
    have chains := CollectorConfig.chains_of_setting told read
    have pairs := items_trimmed parted
    have empty : ∀ name ∈ config.chains, name = "" := by
      rw [chains, items_of_parted parted]
      intro name member
      obtain ⟨part, inside, rfl⟩ := List.mem_map.mp member
      exact (trims_trim part).eq_empty.mpr (blank part (List.mem_of_mem_filter inside))
    have unset : config.chains = [] ↔ ∀ part ∈ parts, part = "" := by
      rw [chains, items_of_parted parted, List.map_eq_nil_iff, List.filter_eq_nil_iff]
      simp only [decide_eq_true_iff, not_not]
    refine ⟨fun other same unlisted => CollectorConfig.ofSettings_unlisted same unlisted read, unset, ?_⟩
    rintro ⟨part, member, filled⟩
    have some : config.chains ≠ [] := fun none => filled (unset.mp none part member)
    have reports := CollectorConfig.reports_of_empty some empty
    refine ⟨reports, fun source table answered named => Collector.collect_of_unreported answered fun chain inside => ?_⟩
    exact Bool.eq_false_iff.mpr fun reported => named chain inside ((reports chain.name).mp reported)

theorem parted_around : Parted ',' "INPUT, ,OUTPUT" ["INPUT", " ", "OUTPUT"] :=
  ⟨by decide +kernel, by decide, by decide +kernel⟩

theorem parted_blank : Parted ',' " , " [" ", " "] := ⟨by decide +kernel, by decide, by decide +kernel⟩

/-- A part of blanks between two others gives an item. Chains that are told in a comma and blanks are not all chains: no
rule is reported of a table of which rules are reported where nothing is set. -/
theorem blank_kept :
    (ofList [("chains", "INPUT, ,OUTPUT")]).list Reading.text "chains" = .ok ["INPUT", "", "OUTPUT"] ∧
      Parted ',' "INPUT, ,OUTPUT" ["INPUT", " ", "OUTPUT"] ∧ Blank " " ∧
      CollectorConfig.ofSettings empty = .ok .default ∧
      CollectorConfig.ofSettings (ofList [("chains", " , ")]) =
        .ok { CollectorConfig.default with chains := ["", ""] } ∧
      (Collector.collect (fun _ => pure (some Collector.partlyReadable)) .default).value = .ok (some [
        { FirewallRule.bare "INPUT" 1 with direction := some .incoming, action := some .allow },
        { FirewallRule.bare "INPUT" 2 with direction := some .incoming, action := some .deny }]) ∧
      (Collector.collect (fun _ => pure (some Collector.partlyReadable))
        { CollectorConfig.default with chains := ["", ""] }).value = .ok (some []) := by
  refine ⟨rfl, parted_around, by decide +kernel, rfl, rfl, ?_, ?_⟩
  · decide +kernel
  · decide +kernel

theorem list_of_parts_blank : (ofList [("chains", " , ")]).get? "chains" = some " , " ∧
    (∃ items, (ofList [("chains", " , ")]).list Reading.text "chains" = .ok items ∧
      List.Forall₂ Trims [" ", " "] items) ∧
    (Collector.collect (fun _ => pure (some Collector.partlyReadable))
      { CollectorConfig.default with chains := ["", ""] }).value = .ok (some []) := by
  obtain ⟨-, told, chains⟩ := list_of_parts (ofList [("chains", " , ")]) "chains"
  obtain ⟨items, listed, trimmed, -⟩ := (told " , " rfl).2 _ parted_blank
  obtain ⟨-, -, nothing⟩ := chains " , " _ _ rfl parted_blank (by decide +kernel) rfl
  refine ⟨rfl, ⟨items, listed, trimmed⟩, ?_⟩
  exact (nothing ⟨" ", by decide, by decide⟩).2 _ Collector.partlyReadable rfl (by decide)

end Settings

end FilterWatch
