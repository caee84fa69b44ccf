import FilterWatch.Proofs.Passages

/-! What an accepted snapshot consists of: a body of records and the record that closes the table,
the built-in chains that the hooks span, and the passages of the user chains between them. Jumps
are resolved in the same terms: a chain begins where its head ends. -/

namespace FilterWatch
open Proofs.Outcomes

/-- Whether no built-in chain spans a record. -/
def Record.isOutside (builtin : List Chain) (record : Record) : Bool :=
  !builtin.any (·.spans record.offset)

/-- The parts of a snapshot that is accepted. -/
structure Anatomy (info : TableInfo) (entries : Bytes) (body : List Record) (closing : Record)
    (builtin : List Chain) (passages : List Passage) : Prop where
  consecutive : Record.Consecutive 0 (body ++ [closing])
  bytes : entries = (body ++ [closing]).flatMap Record.bytes
  announced : ∀ record ∈ body ++ [closing], record.Announced
  count : body.length + 1 = info.entryCount.toNat
  closing : closing.errorName = .ok (some Record.errorTarget)
  spanned : (Hook.all.filter (·.isIn info.validHooks)).mapM (Chain.builtin info body) = .ok builtin
  valid : ∀ passage ∈ passages, passage.Valid
  outside : body.filter (·.isOutside builtin) = passages.flatMap Passage.records

/-- The chains of the parts, in the order in which a table lists them. -/
def Passage.listed (builtin : List Chain) (passages : List Passage) : List Chain :=
  builtin ++ (passages.map Passage.chain).mergeSort Table.nameLe

/-- A snapshot is accepted exactly if it has its parts, and then the table consists of them. -/
theorem Table.ofSnapshot_eq_ok {info : TableInfo} {entries : Bytes} {table : Table} :
    Table.ofSnapshot info entries = .ok table ↔
      ∃ body closing builtin passages, Anatomy info entries body closing builtin passages ∧
        table = ⟨info, Passage.listed builtin passages⟩ := by
  constructor
  · intro accepted
    obtain ⟨records, read, accepted⟩ := bind_eq_ok.mp accepted
    unfold ofRecords at accepted
    -- Every check that can refuse the records leaves a part of the anatomy.
    by_cases count : records.length = info.entryCount.toNat
    · rw [if_neg (Decidable.not_not.mpr count)] at accepted
      rcases List.eq_nil_or_concat records with rfl | ⟨body, closing, same⟩
      · cases accepted
      · rw [List.concat_eq_append] at same
        subst same
        simp only [List.getLast?_concat, List.dropLast_concat] at accepted
        obtain ⟨name, named, accepted⟩ := bind_eq_ok.mp accepted
        by_cases error : name = some Record.errorTarget
        · rw [if_neg (Decidable.not_not.mpr error)] at accepted
          obtain ⟨builtin, spanned, accepted⟩ := bind_eq_ok.mp accepted
          obtain ⟨user, assembled, accepted⟩ := bind_eq_ok.mp accepted
          cases accepted
          obtain ⟨consecutive, bytes, announced⟩ := recordsFrom_eq_ok.mp read
          obtain ⟨passages, valid, outside, rfl⟩ := userChains_eq_ok.mp assembled
          subst error
          exact ⟨body, closing, builtin, passages,
            ⟨consecutive, bytes, announced, by simpa using count, named, spanned, valid, outside⟩, rfl⟩
        · rw [if_pos error] at accepted
          cases accepted
    · rw [if_pos count] at accepted
      cases accepted
  · rintro ⟨body, closing, builtin, passages, anatomy, rfl⟩
    have read := recordsFrom_eq_ok.mpr ⟨anatomy.consecutive, anatomy.bytes, anatomy.announced⟩
    have assembled := userChains_eq_ok.mpr ⟨passages, anatomy.valid, anatomy.outside, rfl⟩
    have count : (body ++ [closing]).length = info.entryCount.toNat := by simpa using anatomy.count
    refine bind_eq_ok.mpr ⟨_, read, ?_⟩
    unfold ofRecords
    rw [if_neg (by simpa using count)]
    simp only [List.getLast?_concat, List.dropLast_concat, anatomy.closing, anatomy.spanned, bind, Except.bind]
    simp only [Record.isOutside] at assembled
    rw [if_neg (by simp)]
    simp only [assembled]
    rfl

theorem Chain.builtin_eq_ok {info : TableInfo} {body : List Record} {hook : Hook} {chain : Chain}
    (built : Chain.builtin info body hook = .ok chain) :
    ∃ policy ∈ body, policy.offset = (info.underflow.get hook).toNat ∧
      (info.hookEntry.get hook).toNat ≤ policy.offset ∧
      chain = {
        name := hook.chainName
        kind := .builtin hook policy
        start := (info.hookEntry.get hook).toNat
        rules := body.filter fun record =>
          (info.hookEntry.get hook).toNat ≤ record.offset ∧ record.offset < policy.offset } := by
  unfold Chain.builtin at built
  simp only at built
  split at built
  next policy found =>
    split at built
    next fits =>
      cases built
      have here : policy.offset = (info.underflow.get hook).toNat := by simpa using List.find?_some found
      exact ⟨policy, List.mem_of_find?_eq_some found, here, by rw [here]; exact fits.1, by simp only [here]⟩
    · cases built
  · cases built

namespace Anatomy

variable {info : TableInfo} {entries : Bytes} {body : List Record} {closing : Record}
  {builtin : List Chain} {passages : List Passage}

theorem mem_builtin (anatomy : Anatomy info entries body closing builtin passages) {chain : Chain}
    (member : chain ∈ builtin) : ∃ hook : Hook, hook.isIn info.validHooks = true ∧
      Chain.builtin info body hook = .ok chain := by
  obtain ⟨hook, valid, built⟩ := mem_of_mapM anatomy.spanned member
  exact ⟨hook, (List.mem_filter.mp valid).2, built⟩

theorem exists_builtin (anatomy : Anatomy info entries body closing builtin passages) {hook : Hook}
    (valid : hook.isIn info.validHooks = true) : ∃ chain ∈ builtin, Chain.builtin info body hook = .ok chain := by
  have all : hook ∈ Hook.all := by cases hook <;> decide
  exact exists_of_mapM anatomy.spanned (List.mem_filter.mpr ⟨all, valid⟩)

theorem hook_of_builtin (anatomy : Anatomy info entries body closing builtin passages) {chain : Chain}
    (member : chain ∈ builtin) : chain.hook?.isSome = true := by
  obtain ⟨hook, _, built⟩ := anatomy.mem_builtin member
  obtain ⟨policy, _, _, _, rfl⟩ := Chain.builtin_eq_ok built
  rfl

theorem mem_listed {chain : Chain} :
    chain ∈ Passage.listed builtin passages ↔ chain ∈ builtin ∨ ∃ passage ∈ passages, passage.chain = chain := by
  simp [Passage.listed]

theorem passage_of_user (anatomy : Anatomy info entries body closing builtin passages) {chain : Chain}
    (member : chain ∈ Passage.listed builtin passages) (user : chain.kind = .user) :
    ∃ passage ∈ passages, passage.chain = chain := by
  rcases mem_listed.mp member with member | found
  · have hooked := anatomy.hook_of_builtin member
    simp [Chain.hook?, user] at hooked
  · exact found

theorem mem_body_of_passage (anatomy : Anatomy info entries body closing builtin passages)
    {passage : Passage} (member : passage ∈ passages) {record : Record} (inside : record ∈ passage.records) :
    record ∈ body := by
  have outside : record ∈ body.filter (·.isOutside builtin) := by
    rw [anatomy.outside]
    exact List.mem_flatMap.mpr ⟨passage, member, inside⟩
  exact (List.mem_filter.mp outside).1

theorem mem_body_of_rule (anatomy : Anatomy info entries body closing builtin passages) {chain : Chain}
    (member : chain ∈ Passage.listed builtin passages) {record : Record} (inside : record ∈ chain.rules) :
    record ∈ body := by
  rcases mem_listed.mp member with hooked | ⟨passage, present, rfl⟩
  · obtain ⟨hook, _, built⟩ := anatomy.mem_builtin hooked
    obtain ⟨policy, _, _, _, rfl⟩ := Chain.builtin_eq_ok built
    exact (List.mem_filter.mp inside).1
  · have rule : record ∈ passage.rules := inside
    exact anatomy.mem_body_of_passage present (by simp [Passage.records, rule])

theorem mem_body_of_policy (anatomy : Anatomy info entries body closing builtin passages) {chain : Chain}
    (member : chain ∈ Passage.listed builtin passages) {record : Record} (decides : chain.policy? = some record) :
    record ∈ body := by
  rcases mem_listed.mp member with hooked | ⟨passage, _, rfl⟩
  · obtain ⟨hook, _, built⟩ := anatomy.mem_builtin hooked
    obtain ⟨policy, inside, _, _, rfl⟩ := Chain.builtin_eq_ok built
    cases decides
    exact inside
  · cases decides

theorem parse_of_body (anatomy : Anatomy info entries body closing builtin passages) {record : Record}
    (member : record ∈ body) : Record.parse entries record.offset = .ok record := by
  have read := Table.recordsFrom_eq_ok.mpr ⟨anatomy.consecutive, anatomy.bytes, anatomy.announced⟩
  obtain ⟨_, _, parsed⟩ := Table.recordsFrom_iff_parsed.mp read
  exact parsed record (List.mem_append_left _ member)

end Anatomy

end FilterWatch
