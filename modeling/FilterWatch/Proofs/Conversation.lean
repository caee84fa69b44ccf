import FilterWatch.Proofs.Attempts
import FilterWatch.Proofs.TableRequests
import Mathlib.Data.List.Basic

/-! What is asked of the kernel for a snapshot and what comes of it, told by the kernel's answers. A
request is made only when the one before it has been answered in full. -/

namespace FilterWatch.Kernel
open Attempt Proofs.Outcomes

/-- An answer with which a snapshot ends, and what it then comes to. Only a table that is not there
is no failure. -/
inductive Ends (table what : String) (buffer : Bytes) : Reply → Except SnapshotError (Option Table) → Prop
  | absent : Ends table what buffer (.refused .noEntry) (.ok none)
  | refused {errno : Errno} (other : errno ≠ .noEntry) :
      Ends table what buffer (.refused errno) (.error (.refused table what errno))
  | cut {data : Bytes} {length : Nat} (other : buffer.length ≠ length) :
      Ends table what buffer (.filled data length) (.error (.sizeMismatch s!"table {what}" buffer.length length))

def Fills (buffer : Bytes) (reply : Reply) (content : Bytes) : Prop :=
  ∃ data, reply = .filled data buffer.length ∧ content = buffer.overlay data

theorem ends_or_fills (table what : String) (buffer : Bytes) (reply : Reply) :
    (∃ outcome, Ends table what buffer reply outcome) ∨ ∃ content, Fills buffer reply content := by
  cases reply with
  | refused errno =>
    by_cases absent : errno = .noEntry
    · subst absent
      exact .inl ⟨_, .absent⟩
    · exact .inl ⟨_, .refused absent⟩
  | filled data length =>
    by_cases whole : buffer.length = length
    · subst whole
      exact .inr ⟨_, data, rfl, rfl⟩
    · exact .inl ⟨_, .cut whole⟩

theorem Ends.named {table what : String} {buffer : Bytes} {reply : Reply}
    {outcome : Except SnapshotError (Option Table)} (ends : Ends table what buffer reply outcome) (name : String) :
    outcome ≠ .error (.invalidTableName name) := by
  cases ends <;> simp

theorem Ends.not_shown {table what : String} {buffer : Bytes} {reply : Reply}
    {outcome : Except SnapshotError (Option Table)} (ends : Ends table what buffer reply outcome) (shown : Table) :
    outcome ≠ .ok (some shown) := by
  cases ends <;> simp

theorem Fills.length {buffer content : Bytes} {reply : Reply} (fills : Fills buffer reply content) :
    content.length = buffer.length := by
  obtain ⟨data, _, rfl⟩ := fills
  simp only [Bytes.overlay, List.length_append, List.length_take, List.length_drop]
  omega

/-- The requests of a snapshot of the named table and what it comes to, one case for each way in
which it can end. -/
inductive Conversation (kernel : Kernel) (name : String) :
    List Request → Except SnapshotError (Option Table) → Prop
  | misnamed (invalid : ¬ IsTableName name) : Conversation kernel name [] (.error (.invalidTableName name))
  | unopened {errno : Errno} (valid : IsTableName name) (failed : kernel.socket = some errno) :
      Conversation kernel name [.openSocket] (.error (.socket errno))
  | infoEnds {outcome : Except SnapshotError (Option Table)} (valid : IsTableName name) (opened : kernel.socket = none)
      (ends : Ends name "info" (infoBuffer name) (kernel.info (infoBuffer name)) outcome) :
      Conversation kernel name [.openSocket, .readInfo (infoBuffer name), .closeSocket] outcome
  | infoUnreadable {content : Bytes} {error : LayoutError} (valid : IsTableName name) (opened : kernel.socket = none)
      (told : Fills (infoBuffer name) (kernel.info (infoBuffer name)) content)
      (unreadable : TableInfo.parse content = .error error) :
      Conversation kernel name [.openSocket, .readInfo (infoBuffer name), .closeSocket] (.error (.layout error))
  | entriesEnd {content : Bytes} {info : TableInfo} {outcome : Except SnapshotError (Option Table)}
      (valid : IsTableName name) (opened : kernel.socket = none)
      (told : Fills (infoBuffer name) (kernel.info (infoBuffer name)) content)
      (read : TableInfo.parse content = .ok info)
      (ends : Ends name "entries" (entriesBuffer name info.size) (kernel.entries (entriesBuffer name info.size)) outcome) :
      Conversation kernel name [.openSocket, .readInfo (infoBuffer name),
        .readEntries (entriesBuffer name info.size), .closeSocket] outcome
  | complete {content header entries : Bytes} {info : TableInfo} (valid : IsTableName name)
      (opened : kernel.socket = none) (told : Fills (infoBuffer name) (kernel.info (infoBuffer name)) content)
      (read : TableInfo.parse content = .ok info)
      (given : Fills (entriesBuffer name info.size) (kernel.entries (entriesBuffer name info.size)) (header ++ entries))
      (behind : header.length = 40) (sized : entries.length = info.size.toNat) :
      Conversation kernel name [.openSocket, .readInfo (infoBuffer name),
        .readEntries (entriesBuffer name info.size), .closeSocket]
        (((Table.ofSnapshot info entries).mapError .layout).map some)

theorem checkSize_eq_ok {what : String} {expected found : Nat} :
    checkSize what expected found = .ok () ↔ expected = found := by
  unfold checkSize
  split
  next same => simp [same]
  next other => simp [other]

theorem checkSize_eq_error {what : String} {expected found : Nat} (other : expected ≠ found) :
    checkSize what expected found = .error (.sizeMismatch what expected found) := if_neg other

section Reads

variable {kernel : Kernel} {name : String} {field content : Bytes} {info : TableInfo}
  {outcome : Except SnapshotError (Option Table)}

theorem readEntries_requests :
    (kernel.readEntries name field info).requests = [.readEntries (entriesRequest field info.size)] := by
  rw [readEntries, requests_bind, requests_ask, value_ask]
  cases kernel.entries (entriesRequest field info.size) with
  | refused errno =>
    by_cases absent : errno = .noEntry <;> simp [absent, requests_map, requests_log, requests_throw]
  | filled data length =>
    simp only [requests_bind, requests_ofExcept, requests_log, requests_map, value_ofExcept]
    cases checkSize "table entries" (entriesRequest field info.size).length length <;> simp [value_log]

theorem readEntries_of_ends (ends : Ends name "entries" (entriesRequest field info.size)
    (kernel.entries (entriesRequest field info.size)) outcome) :
    (kernel.readEntries name field info).value = outcome := by
  rw [readEntries, value_bind, value_ask, ok_bind]
  generalize kernel.entries (entriesRequest field info.size) = reply at ends ⊢
  cases ends with
  | absent => rfl
  | refused other => simp only [if_neg other, value_throw]
  | cut other =>
    simp only [value_bind, value_ofExcept, checkSize_eq_error other, error_bind]
    rfl

theorem readEntries_of_fills (fills : Fills (entriesRequest field info.size)
    (kernel.entries (entriesRequest field info.size)) content) :
    (kernel.readEntries name field info).value =
      ((Table.ofSnapshot info (content.drop entriesHeaderSize)).mapError .layout).map some := by
  obtain ⟨data, answer, rfl⟩ := fills
  rw [readEntries, value_bind, value_ask, ok_bind, answer]
  simp only [value_bind, value_ofExcept, checkSize_eq_ok.mpr rfl, ok_bind, value_log, value_map]

theorem readTable_of_ends (ends : Ends name "info" (infoRequest field) (kernel.info (infoRequest field)) outcome) :
    (kernel.readTable name field).value = outcome ∧
      (kernel.readTable name field).requests = [.readInfo (infoRequest field)] := by
  rw [readTable, value_bind, requests_bind, value_ask, requests_ask, ok_bind]
  generalize kernel.info (infoRequest field) = reply at ends ⊢
  cases ends with
  | absent => exact ⟨rfl, rfl⟩
  | refused other => simp only [if_neg other, value_throw, requests_throw, List.append_nil, and_self]
  | cut other =>
    simp only [value_bind, requests_bind, value_ofExcept, requests_ofExcept, checkSize_eq_error other, error_bind]
    exact ⟨rfl, rfl⟩

theorem readTable_of_fills (fills : Fills (infoRequest field) (kernel.info (infoRequest field)) content) :
    (kernel.readTable name field).value =
        ((TableInfo.parse content).mapError .layout >>= fun info => (kernel.readEntries name field info).value) ∧
      (kernel.readTable name field).requests = .readInfo (infoRequest field) ::
        match TableInfo.parse content with
        | .ok info => [.readEntries (entriesRequest field info.size)]
        | .error _ => [] := by
  obtain ⟨data, answer, rfl⟩ := fills
  rw [readTable, value_bind, requests_bind, value_ask, requests_ask, ok_bind, answer]
  simp only [value_bind, requests_bind, value_ofExcept, requests_ofExcept, checkSize_eq_ok.mpr rfl, ok_bind, true_and]
  cases TableInfo.parse ((infoRequest field).overlay data) with
  | ok info => simp [mapError_ok, readEntries_requests]
  | error error => rfl

theorem snapshot_of_invalid (invalid : ¬ IsTableName name) :
    (kernel.snapshot name).value = .error (.invalidTableName name) ∧ (kernel.snapshot name).requests = [] := by
  simp only [snapshot, value_bind, requests_bind, value_ofExcept, requests_ofExcept, tableName_of_invalid invalid,
    error_bind, List.append_nil, and_self]

theorem snapshot_of_unopened {errno : Errno} (valid : IsTableName name) (failed : kernel.socket = some errno) :
    (kernel.snapshot name).value = .error (.socket errno) ∧ (kernel.snapshot name).requests = [.openSocket] := by
  simp only [snapshot, value_bind, requests_bind, value_ofExcept, requests_ofExcept, tableName_of_valid valid,
    ok_bind, value_ask, requests_ask, failed, value_throw, requests_throw, error_bind, true_and]
  rfl

/-- The socket is closed whatever reading the table comes to. -/
theorem snapshot_of_opened (valid : IsTableName name) (opened : kernel.socket = none) :
    (kernel.snapshot name).value = (kernel.readTable name ((Bytes.ofText name).padTo TableInfo.nameWidth)).value ∧
      (kernel.snapshot name).requests =
        .openSocket :: (kernel.readTable name ((Bytes.ofText name).padTo TableInfo.nameWidth)).requests ++
          [.closeSocket] := by
  simp only [snapshot, value_bind, requests_bind, value_ofExcept, requests_ofExcept, tableName_of_valid valid,
    ok_bind, value_ask, requests_ask, opened, value_caught, requests_caught]
  simp

variable {requests : List Request}

theorem Conversation.held (conversation : Conversation kernel name requests outcome) :
    (kernel.snapshot name).requests = requests ∧ (kernel.snapshot name).value = outcome := by
  cases conversation with
  | misnamed invalid => exact (snapshot_of_invalid invalid).symm
  | unopened valid failed => exact (snapshot_of_unopened valid failed).symm
  | infoEnds valid opened ends =>
    obtain ⟨value, asked⟩ := snapshot_of_opened valid opened
    rw [← infoRequest_eq valid] at ends ⊢
    obtain ⟨ended, read⟩ := readTable_of_ends ends
    rw [value, asked, ended, read]
    exact ⟨rfl, rfl⟩
  | infoUnreadable valid opened told unreadable =>
    obtain ⟨value, asked⟩ := snapshot_of_opened valid opened
    rw [← infoRequest_eq valid] at told ⊢
    obtain ⟨ended, read⟩ := readTable_of_fills told
    rw [value, asked, ended, read, unreadable]
    exact ⟨rfl, rfl⟩
  | entriesEnd valid opened told parsed ends =>
    obtain ⟨value, asked⟩ := snapshot_of_opened valid opened
    rw [← infoRequest_eq valid] at told ⊢
    rw [← entriesRequest_eq valid] at ends ⊢
    obtain ⟨ended, read⟩ := readTable_of_fills told
    rw [value, asked, ended, read, parsed]
    exact ⟨rfl, readEntries_of_ends ends⟩
  | @complete content header entries info valid opened told parsed given behind sized =>
    obtain ⟨value, asked⟩ := snapshot_of_opened valid opened
    rw [← infoRequest_eq valid] at told ⊢
    rw [← entriesRequest_eq valid] at given ⊢
    obtain ⟨ended, read⟩ := readTable_of_fills told
    have front : header.length = entriesHeaderSize := behind
    have shown := @readEntries_of_fills kernel name _ _ _ given
    rw [List.drop_left' front] at shown
    rw [value, asked, ended, read, parsed]
    exact ⟨rfl, shown⟩

theorem exists_conversation (kernel : Kernel) (name : String) :
    ∃ requests outcome, Conversation kernel name requests outcome := by
  by_cases valid : IsTableName name
  case neg => exact ⟨_, _, .misnamed valid⟩
  cases opened : kernel.socket with
  | some errno => exact ⟨_, _, .unopened valid opened⟩
  | none =>
    rcases ends_or_fills name "info" (infoBuffer name) (kernel.info (infoBuffer name)) with
      ⟨outcome, ends⟩ | ⟨content, told⟩
    · exact ⟨_, _, .infoEnds valid opened ends⟩
    cases parsed : TableInfo.parse content with
    | error error => exact ⟨_, _, .infoUnreadable valid opened told parsed⟩
    | ok info =>
      rcases ends_or_fills name "entries" (entriesBuffer name info.size)
        (kernel.entries (entriesBuffer name info.size)) with ⟨outcome, ends⟩ | ⟨answer, given⟩
      · exact ⟨_, _, .entriesEnd valid opened told parsed ends⟩
      · have whole := given.length.trans (length_entriesBuffer valid info.size)
        rw [← List.take_append_drop 40 answer] at given
        refine ⟨_, _, .complete valid opened told parsed given ?_ ?_⟩
        · rw [List.length_take, whole]
          omega
        · rw [List.length_drop, whole]
          omega

end Reads

theorem snapshot_eq_some {kernel : Kernel} {name : String} {table : Table} : (kernel.snapshot name).value = .ok (some table) ↔
    IsTableName name ∧ kernel.socket = none ∧ ∃ content header entries info,
      Fills (infoBuffer name) (kernel.info (infoBuffer name)) content ∧ TableInfo.parse content = .ok info ∧
      Fills (entriesBuffer name info.size) (kernel.entries (entriesBuffer name info.size)) (header ++ entries) ∧
      header.length = 40 ∧ entries.length = info.size.toNat ∧ Table.ofSnapshot info entries = .ok table := by
  constructor
  · intro taken
    obtain ⟨requests, outcome, conversation⟩ := exists_conversation kernel name
    have same := conversation.held.2.symm.trans taken
    cases conversation with
    | misnamed invalid => cases same
    | unopened valid failed => cases same
    | infoEnds valid opened ends => exact absurd same (ends.not_shown table)
    | infoUnreadable valid opened told unreadable => cases same
    | entriesEnd valid opened told read ends => exact absurd same (ends.not_shown table)
    | complete valid opened told read given behind sized =>
      obtain ⟨_, accepted, shown⟩ := map_eq_ok.mp same
      cases shown
      exact ⟨valid, opened, _, _, _, _, told, read, given, behind, sized, mapError_eq_ok.mp accepted⟩
  · rintro ⟨valid, opened, content, header, entries, info, told, read, given, behind, sized, accepted⟩
    rw [(Conversation.complete valid opened told read given behind sized).held.2, accepted]
    rfl

end FilterWatch.Kernel
