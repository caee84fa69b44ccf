import FilterWatch.Proofs.HookSpans

/-! The snapshots that are accepted, told without reading them step by step: records over all of
the bytes, the last of them an error target of that name, hooks that lead to records, and between
the hooks' spans groups of records that a head opens and a return closes. -/

namespace FilterWatch
open Proofs.Outcomes

namespace Record

variable {record : Record} {name : String}

def HasErrorTarget (record : Record) : Prop :=
  ∃ target, record.target = .ok (some target) ∧ target.name = errorTarget

/-- The record has an error target that carries the name. -/
def Carries (record : Record) (name : String) : Prop :=
  ∃ target, record.target = .ok (some target) ∧ target.name = errorTarget ∧
    target.data.nameAt 0 chainNameWidth = .ok name

/-- The record has no target or one that can be read, and with it the name in an error target. -/
def Readable (record : Record) : Prop :=
  record.target = .ok none ∨ ∃ target, record.target = .ok (some target) ∧
    (target.name = errorTarget → ∃ name, target.data.nameAt 0 chainNameWidth = .ok name)

theorem errorName_eq_some : record.errorName = .ok (some name) ↔ record.Carries name := by
  unfold errorName Carries
  simp only [bind_eq_ok]
  constructor
  · rintro ⟨found, read, named⟩
    cases found with
    | none => cases named
    | some target =>
      simp only [Target.errorName] at named
      split at named
      next error =>
        obtain ⟨_, carried, same⟩ := map_eq_ok.mp named
        cases same
        exact ⟨target, read, error, carried⟩
      · cases named
  · rintro ⟨target, read, error, carried⟩
    refine ⟨some target, read, ?_⟩
    simp only [Target.errorName, if_pos error, carried]
    rfl

theorem errorName_eq_none : record.errorName = .ok none ↔ record.Readable ∧ ¬ record.HasErrorTarget := by
  unfold errorName Readable HasErrorTarget
  simp only [bind_eq_ok]
  constructor
  · rintro ⟨found, read, named⟩
    cases found with
    | none => exact ⟨.inl read, by simp [read]⟩
    | some target =>
      simp only [Target.errorName] at named
      split at named
      · obtain ⟨_, _, same⟩ := map_eq_ok.mp named
        cases same
      next other => exact ⟨.inr ⟨target, read, fun error => absurd error other⟩, by simpa [read] using other⟩
  · rintro ⟨missing | ⟨target, read, _⟩, other⟩
    · exact ⟨none, missing, rfl⟩
    · refine ⟨some target, read, ?_⟩
      simp only [Target.errorName]
      exact if_neg fun error => other ⟨target, read, error⟩

theorem Carries.hasErrorTarget (carries : record.Carries name) : record.HasErrorTarget := by
  obtain ⟨target, read, error, _⟩ := carries
  exact ⟨target, read, error⟩

theorem Carries.readable (carries : record.Carries name) : record.Readable := by
  obtain ⟨target, read, _, carried⟩ := carries
  exact .inr ⟨target, read, fun _ => ⟨name, carried⟩⟩

theorem HasErrorTarget.carries (error : record.HasErrorTarget) (readable : record.Readable) :
    ∃ name, record.Carries name := by
  obtain ⟨target, read, named⟩ := error
  rcases readable with missing | ⟨other, same, carried⟩
  · rw [read] at missing
    cases missing
  · rw [read] at same
    cases same
    obtain ⟨name, carried⟩ := carried named
    exact ⟨name, target, read, named, carried⟩

end Record

/-- Groups of records, each of an error target and others after it, the last of which returns. -/
inductive Grouped : List Record → Prop
  | nil : Grouped []
  | cons {head : Record} {rules : List Record} {last : Record} {rest : List Record}
      (opens : head.HasErrorTarget) (plain : ∀ record ∈ rules ++ [last], ¬ record.HasErrorTarget)
      (returns : last.Returns) (others : Grouped rest) : Grouped (head :: rules ++ [last] ++ rest)

theorem Grouped.passages {records : List Record} (grouped : Grouped records)
    (readable : ∀ record ∈ records, record.Readable) :
    ∃ passages : List Passage, (∀ passage ∈ passages, passage.Valid) ∧
      records = passages.flatMap Passage.records := by
  induction grouped with
  | nil => exact ⟨[], by simp, rfl⟩
  | @cons head rules last rest opens plain returns others ih =>
    obtain ⟨passages, valid, rfl⟩ := ih fun record member => readable record (by simp [member])
    obtain ⟨name, carries⟩ := opens.carries (readable head (by simp))
    refine ⟨⟨head, name, rules, last⟩ :: passages, ?_, by simp [Passage.records]⟩
    intro passage member
    rcases List.mem_cons.mp member with rfl | member
    · refine ⟨Record.errorName_eq_some.mpr carries, fun rule inside => ?_, returns⟩
      exact Record.errorName_eq_none.mpr ⟨readable rule (by simp [inside]), plain rule (by simp [inside])⟩
    · exact valid passage member

theorem Grouped.of_passages {passages : List Passage} (valid : ∀ passage ∈ passages, passage.Valid) :
    Grouped (passages.flatMap Passage.records) := by
  induction passages with
  | nil => exact .nil
  | cons passage rest ih =>
    have own := valid passage (by simp)
    have others := ih fun other member => valid other (by simp [member])
    refine .cons (Record.errorName_eq_some.mp own.head).hasErrorTarget ?_ own.last others
    intro record member
    exact (Record.errorName_eq_none.mp (own.plain record member)).2

theorem Passage.Valid.readable {passage : Passage} (valid : passage.Valid) :
    ∀ record ∈ passage.records, record.Readable := by
  intro record member
  rw [Passage.records, List.cons_append] at member
  rcases List.mem_cons.mp member with rfl | member
  · exact (Record.errorName_eq_some.mp valid.head).readable
  · exact (Record.errorName_eq_none.mp (valid.plain record member)).1

/-- What the bytes and the info of a table look like. -/
structure Grammar (info : TableInfo) (entries : Bytes) (body : List Record) (closing : Record) : Prop where
  bytes : entries = (body ++ [closing]).flatMap Record.bytes
  consecutive : Record.Consecutive 0 (body ++ [closing])
  parsed : ∀ record ∈ body ++ [closing], Record.parse entries record.offset = .ok record
  count : (body ++ [closing]).length = info.entryCount.toNat
  closing : closing.Carries Record.errorTarget
  hooks : ∀ hook : Hook, hook.isIn info.validHooks = true →
    (info.hookEntry.get hook).toNat ≤ (info.underflow.get hook).toNat ∧
      (∃ record ∈ body, record.offset = (info.hookEntry.get hook).toNat) ∧
      ∃ record ∈ body, record.offset = (info.underflow.get hook).toNat
  readable : ∀ record ∈ info.spared body, record.Readable
  grouped : Grouped (info.spared body)

namespace Grammar

variable {info : TableInfo} {entries : Bytes} {body : List Record} {closing : Record}

theorem of_anatomy {builtin : List Chain} {passages : List Passage}
    (anatomy : Anatomy info entries body closing builtin passages) : Grammar info entries body closing := by
  have division := anatomy.division
  obtain ⟨consecutive, bytes, parsed⟩ := Table.recordsFrom_iff_parsed.mp division.records
  refine ⟨bytes, consecutive, parsed, by simpa using anatomy.count, Record.errorName_eq_some.mp anatomy.closing,
    ?_, ?_, ?_⟩
  · intro hook valid
    obtain ⟨chain, _, built⟩ := anatomy.exists_builtin valid
    exact Chain.exists_builtin_iff.mp ⟨chain, built⟩
  · rw [division.spared]
    intro record member
    obtain ⟨passage, present, inside⟩ := List.mem_flatMap.mp member
    exact (division.valid passage present).readable record inside
  · rw [division.spared]
    exact Grouped.of_passages division.valid

theorem anatomy (grammar : Grammar info entries body closing) :
    ∃ builtin passages, Anatomy info entries body closing builtin passages := by
  obtain ⟨_, _, announced⟩ := Table.recordsFrom_eq_ok.mp
    (Table.recordsFrom_iff_parsed.mpr ⟨grammar.consecutive, grammar.bytes, grammar.parsed⟩)
  obtain ⟨builtin, spanned⟩ : ∃ builtin,
      (Hook.all.filter (·.isIn info.validHooks)).mapM (Chain.builtin info body) = .ok builtin :=
    mapM_total fun hook member => Chain.exists_builtin_iff.mpr (grammar.hooks hook (List.mem_filter.mp member).2)
  obtain ⟨passages, valid, spared⟩ := grammar.grouped.passages grammar.readable
  refine ⟨builtin, passages, grammar.consecutive, grammar.bytes, announced, by simpa using grammar.count,
    Record.errorName_eq_some.mpr grammar.closing, spanned, valid, ?_⟩
  rw [Chain.filter_isOutside spanned, spared]

end Grammar

/-- A snapshot is accepted exactly if it follows the grammar. -/
theorem Table.accepted_iff_grammar (info : TableInfo) (entries : Bytes) :
    (∃ table, ofSnapshot info entries = .ok table) ↔ ∃ body closing, Grammar info entries body closing := by
  constructor
  · rintro ⟨table, accepted⟩
    obtain ⟨body, closing, builtin, passages, anatomy, _⟩ := ofSnapshot_eq_ok.mp accepted
    exact ⟨body, closing, Grammar.of_anatomy anatomy⟩
  · rintro ⟨body, closing, grammar⟩
    obtain ⟨builtin, passages, anatomy⟩ := grammar.anatomy
    exact ⟨_, ofSnapshot_eq_ok.mpr ⟨body, closing, builtin, passages, anatomy, rfl⟩⟩

end FilterWatch
