import FilterWatch.Event.Output
import FilterWatch.Proofs.JsonStrings
import FilterWatch.Proofs.JsonTexts
import FilterWatch.Proofs.TextParts

/-! What a line of JSON tells. Of two values that can stand at one place of it, neither goes on where the other ends, so
that the line is cut into values in one way only, and the event is told by it. -/

namespace FilterWatch
open Proofs.Outcomes

namespace Json

/-- The text does not go on with a digit. -/
def Undigited (rest : List Char) : Prop := ∀ c ∈ rest.head?, c.isDigit = false

/-- Neither of two values goes on where the other ends. -/
def Apart (first second : String) : Prop := ∀ rest others, Undigited rest → Undigited others →
  first.toList ++ rest = second.toList ++ others → first = second ∧ rest = others

theorem quote_append_inj {first second : String} {rest others : List Char}
    (same : (quote first).toList ++ rest = (quote second).toList ++ others) : first = second ∧ rest = others := by
  have read := Reader.quoted_quote first rest
  rw [same, Reader.quoted_quote] at read
  cases read
  exact ⟨rfl, rfl⟩

theorem quote_inj {first second : String} : quote first = quote second ↔ first = second := by
  refine ⟨fun same => ?_, congrArg quote⟩
  have letters : (quote first).toList ++ [] = (quote second).toList ++ [] := by rw [same]
  exact (quote_append_inj letters).1

theorem apart_quote (first second : String) : Apart (quote first) (quote second) := by
  intro rest others _ _ same
  exact (quote_append_inj same).imp_left (congrArg quote)

/-- An absent text is written without quotes. -/
theorem null_ne_quote (text : String) (rest others : List Char) :
    "null".toList ++ rest ≠ (quote text).toList ++ others := by
  intro same
  have first := congrArg List.head? same
  simp [quote] at first

theorem optional_append_inj {first second : Option String} {rest others : List Char}
    (same : (optional first).toList ++ rest = (optional second).toList ++ others) : first = second ∧ rest = others := by
  cases first with
  | none =>
    cases second with
    | none => exact ⟨rfl, List.append_cancel_left same⟩
    | some text => exact absurd same (null_ne_quote text rest others)
  | some text =>
    cases second with
    | none => exact absurd same.symm (null_ne_quote text others rest)
    | some other => exact (quote_append_inj same).imp_left (congrArg some)

theorem optional_inj {first second : Option String} : optional first = optional second ↔ first = second := by
  refine ⟨fun same => ?_, congrArg optional⟩
  have letters : (optional first).toList ++ [] = (optional second).toList ++ [] := by rw [same]
  exact (optional_append_inj letters).1

theorem apart_optional (first second : Option String) : Apart (optional first) (optional second) := by
  intro rest others _ _ same
  exact (optional_append_inj same).imp_left (congrArg optional)

theorem takeWhile_decimal (number : Nat) {rest : List Char} (ends : Undigited rest) :
    ((toString number).toList ++ rest).takeWhile Char.isDigit = (toString number).toList := by
  have digits : ∀ c ∈ (toString number).toList, c.isDigit = true := by
    intro c member
    rw [Nat.toString_eq_ofList_toDigits, String.toList_ofList] at member
    exact Nat.isDigit_of_mem_toDigits (by decide) (by decide) member
  have none : rest.takeWhile Char.isDigit = [] := by
    cases rest with
    | nil => rfl
    | cons c others => exact List.takeWhile_cons_of_neg (Bool.eq_false_iff.mp (ends c rfl))
  rw [List.takeWhile_append_of_pos digits, none, List.append_nil]

theorem apart_decimal (first second : Nat) : Apart (toString first) (toString second) := by
  intro rest others ends also same
  have digits := takeWhile_decimal first ends
  rw [same, takeWhile_decimal second also] at digits
  rw [digits] at same
  exact ⟨String.toList_inj.mp digits.symm, List.append_cancel_left same⟩

/-- Members of the same names, with values apart from each other. -/
def Matched (members others : List (String × String)) : Prop :=
  List.Forall₂ (fun member other => member.1 = other.1 ∧ Apart member.2 other.2) members others

/-- A member as it stands in an object. -/
def memberText (member : String × String) : String := quote member.1 ++ ":" ++ member.2

theorem object_eq (members : List (String × String)) :
    object members = "\x7b" ++ ",".intercalate (members.map memberText) ++ "\x7d" := rfl

theorem memberText_append_inj {member other : String × String} (name : member.1 = other.1)
    (apart : Apart member.2 other.2) {rest left : List Char} (ends : Undigited rest) (also : Undigited left)
    (same : (memberText member).toList ++ rest = (memberText other).toList ++ left) : member = other ∧ rest = left := by
  simp only [memberText, String.toList_append, name, List.append_assoc] at same
  obtain ⟨value, behind⟩ := apart rest left ends also (List.append_cancel_left (List.append_cancel_left same))
  exact ⟨Prod.ext name value, behind⟩

theorem joined_append_inj {members others : List (String × String)} (matched : Matched members others)
    {rest left : List Char} (same : (",".intercalate (members.map memberText)).toList ++ '\x7d' :: rest =
      (",".intercalate (others.map memberText)).toList ++ '\x7d' :: left) : members = others ∧ rest = left := by
  have brace (rest : List Char) : Undigited ('\x7d' :: rest) := by
    rintro c ⟨⟩
    rfl
  have comma (rest : List Char) : Undigited (',' :: rest) := by
    rintro c ⟨⟩
    rfl
  induction matched with
  | nil => exact ⟨rfl, (List.cons.inj same).2⟩
  | @cons member other members others pair tail ih =>
    obtain ⟨name, apart⟩ := pair
    cases tail with
    | nil =>
      simp only [List.map_cons, List.map_nil, String.intercalate_singleton] at same
      obtain ⟨rfl, behind⟩ := memberText_append_inj name apart (brace rest) (brace left) same
      exact ⟨rfl, (List.cons.inj behind).2⟩
    | cons next tail =>
      have sign : ",".toList = [','] := rfl
      simp only [List.map_cons, String.intercalate_cons_cons, String.toList_append, sign, List.append_assoc,
        List.singleton_append] at same ih
      obtain ⟨rfl, behind⟩ := memberText_append_inj name apart (comma _) (comma _) same
      obtain ⟨later, rfl⟩ := ih (List.cons.inj behind).2
      exact ⟨congrArg (member :: ·) later, rfl⟩

theorem object_append_inj {members others : List (String × String)} (matched : Matched members others)
    {rest left : List Char} (same : (object members).toList ++ rest = (object others).toList ++ left) :
    members = others ∧ rest = left := by
  simp only [object_eq, String.toList_append, List.append_assoc] at same
  exact joined_append_inj matched (List.append_cancel_left same)

theorem object_inj {members others : List (String × String)} (matched : Matched members others)
    (same : object members = object others) : members = others := by
  have letters : (object members).toList ++ [] = (object others).toList ++ [] := by rw [same]
  exact (object_append_inj matched letters).1

theorem apart_object {members others : List (String × String)} (matched : Matched members others) :
    Apart (object members) (object others) := by
  intro rest left _ _ same
  exact (object_append_inj matched same).imp_left (congrArg object)

end Json

theorem Text.hyphen_notMem_hexDigits (width n : Nat) : '-' ∉ hexDigits width n := by
  have digit : ∀ digit < 16, hexDigit digit ≠ '-' := by decide
  intro member
  obtain ⟨place, -, same⟩ := List.mem_map.mp member
  exact digit _ (Nat.mod_lt _ (by decide)) same

namespace Uuid

/-- The groups of digits in which an identifier is written, each by its place and its length. -/
def groups : List (Nat × Nat) := [(0, 8), (8, 4), (12, 4), (16, 4), (20, 12)]

def groupText (digits : List Char) (group : Nat × Nat) : String :=
  String.ofList ((digits.drop group.1).take group.2)

theorem text_eq (id : Uuid) : id.text =
    "-".intercalate (groups.map (groupText (Text.hexDigits 32 id.bits.toNat))) := rfl

theorem groups_cover {digits : List Char} (length : digits.length = 32) :
    (groups.map (groupText digits)).flatMap String.toList = digits := by
  have next (start size : Nat) : (digits.drop start).take size ++ digits.drop (start + size) = digits.drop start := by
    rw [← List.drop_drop]
    exact List.take_append_drop size (digits.drop start)
  have ended : digits.drop (20 + 12) = [] := List.drop_eq_nil_of_le (Nat.le_of_eq length)
  simp only [groups, groupText, List.map_cons, List.map_nil, List.flatMap_cons, List.flatMap_nil, String.toList_ofList]
  rw [← ended, next 20 12, next 16 4, next 12 4, next 8 4, next 0 8, List.drop_zero]

theorem groupText_clean {digits : List Char} (length : digits.length = 32) (plain : '-' ∉ digits) :
    ∀ part ∈ groups.map (groupText digits), Lacks part '-' ∧ part ≠ "" := by
  have inside : ∀ group ∈ groups, group.1 < 32 ∧ group.2 ≠ 0 := by decide
  intro part member
  obtain ⟨group, known, rfl⟩ := List.mem_map.mp member
  obtain ⟨starts, sized⟩ := inside group known
  constructor
  · intro sign
    rw [groupText, String.toList_ofList] at sign
    exact plain (List.mem_of_mem_drop (List.mem_of_mem_take sign))
  · intro vacant
    have taken : (digits.drop group.1).take group.2 = [] := String.ofList_eq_empty_iff.mp vacant
    rcases List.take_eq_nil_iff.mp taken with none | behind
    · exact sized none
    · have ended := List.drop_eq_nil_iff.mp behind
      omega

theorem text_inj {first second : Uuid} (same : first.text = second.text) : first = second := by
  have length (id : Uuid) : (Text.hexDigits 32 id.bits.toNat).length = 32 := Text.length_hexDigits 32 _
  have clean (id : Uuid) := groupText_clean (length id) (Text.hyphen_notMem_hexDigits 32 id.bits.toNat)
  have sign : "-".toList = ['-'] := rfl
  rw [text_eq, text_eq] at same
  have parts := joined_inj sign (clean first) (clean second) same
  have digits := congrArg (List.flatMap String.toList) parts
  rw [groups_cover (length first), groups_cover (length second)] at digits
  have value := congrArg Text.ofHex? digits
  have power : Nat.pow 16 32 = 2 ^ 128 := by norm_num
  have small (id : Uuid) : id.bits.toNat % Nat.pow 16 32 = id.bits.toNat := by
    rw [power]
    exact Nat.mod_eq_of_lt id.bits.isLt
  rw [Text.ofHex?_hexDigits, Text.ofHex?_hexDigits, small, small] at value
  cases first
  cases second
  rw [Uuid.mk.injEq]
  exact BitVec.eq_of_toNat_eq (Option.some.inj value)

end Uuid

open Json

/-- The members of a time in JSON. -/
def Time.members (time : Time) : List (String × String) :=
  [("secs_since_epoch", toString time.seconds.toNat), ("nanos_since_epoch", toString time.nanos)]

theorem Time.matched (first second : Time) : Matched first.members second.members :=
  .cons ⟨rfl, apart_decimal _ _⟩ (.cons ⟨rfl, apart_decimal _ _⟩ .nil)

theorem Time.members_inj {first second : Time} (known : 0 ≤ first.seconds) (also : 0 ≤ second.seconds)
    (same : first.members = second.members) : first = second := by
  simp only [members, List.cons.injEq, Prod.mk.injEq, true_and, and_true, Nat.toString_eq_repr, Nat.repr_inj] at same
  obtain ⟨firstSeconds, firstNanos, _⟩ := first
  obtain ⟨secondSeconds, secondNanos, _⟩ := second
  obtain ⟨seconds, rfl⟩ := same
  have equal : firstSeconds = secondSeconds := by
    dsimp only at known also seconds
    omega
  rw [Time.mk.injEq]
  exact ⟨equal, rfl⟩

def EventHeader.members (header : EventHeader) : List (String × String) := [
  ("source", quote header.source), ("hostname", quote header.hostname), ("snapshot", quote header.snapshot.text),
  ("timestamp", object header.timestamp.members)]

theorem EventHeader.matched (first second : EventHeader) : Matched first.members second.members :=
  .cons ⟨rfl, apart_quote _ _⟩ <| .cons ⟨rfl, apart_quote _ _⟩ <| .cons ⟨rfl, apart_quote _ _⟩ <|
    .cons ⟨rfl, apart_object (Time.matched _ _)⟩ .nil

theorem EventHeader.members_inj {first second : EventHeader} (known : 0 ≤ first.timestamp.seconds)
    (also : 0 ≤ second.timestamp.seconds) (same : first.members = second.members) : first = second := by
  simp only [members, List.cons.injEq, Prod.mk.injEq, true_and, and_true, quote_inj] at same
  obtain ⟨source, hostname, snapshot, timestamp⟩ := same
  have time := Time.members_inj known also (object_inj (Time.matched _ _) timestamp)
  cases first
  cases second
  rw [EventHeader.mk.injEq]
  exact ⟨source, hostname, Uuid.text_inj snapshot, time⟩

def FirewallRule.members (rule : FirewallRule) : List (String × String) := [
  ("chain", quote rule.chain), ("priority", toString rule.priority),
  ("direction", optional (rule.direction.map Direction.name)), ("action", optional (rule.action.map RuleAction.name)),
  ("target", optional rule.target), ("source_address", optional rule.sourceAddress),
  ("destination_address", optional rule.destinationAddress), ("source_port", optional rule.sourcePort),
  ("destination_port", optional rule.destinationPort), ("protocol", optional rule.protocol)]

theorem FirewallRule.matched (first second : FirewallRule) : Matched first.members second.members := by
  refine .cons ⟨rfl, apart_quote _ _⟩ (.cons ⟨rfl, apart_decimal _ _⟩ ?_)
  iterate 8 refine .cons ⟨rfl, apart_optional _ _⟩ ?_
  exact .nil

theorem Direction.name_inj : Function.Injective Direction.name := by
  intro first second same
  cases first <;> cases second <;> first | rfl | exact absurd same (by decide)

theorem RuleAction.name_inj : Function.Injective RuleAction.name := by
  intro first second same
  cases first <;> cases second <;> first | rfl | exact absurd same (by decide)

theorem FirewallRule.members_inj {first second : FirewallRule} (same : first.members = second.members) :
    first = second := by
  simp only [members, List.cons.injEq, Prod.mk.injEq, true_and, and_true, quote_inj, optional_inj,
    Nat.toString_eq_repr, Nat.repr_inj, (Option.map_injective Direction.name_inj).eq_iff,
    (Option.map_injective RuleAction.name_inj).eq_iff] at same
  cases first
  cases second
  rw [FirewallRule.mk.injEq]
  exact same

namespace Event

def payloadMembers (event : Event) : List (String × String) := [("type", quote kindName), ("content", event.rule.json)]

def members (event : Event) : List (String × String) :=
  [("header", object event.header.members), ("payload", object event.payloadMembers)]

theorem json?_eq (event : Event) :
    event.json? = if event.header.timestamp.seconds < 0 then none else some (object event.members) := rfl

theorem json?_eq_some {event : Event} {line : String} :
    event.json? = some line ↔ 0 ≤ event.header.timestamp.seconds ∧ object event.members = line := by
  rw [json?_eq]
  split
  next early => exact iff_of_false nofun fun told => absurd told.1 (Int.not_le.mpr early)
  next known => simp [Int.not_lt.mp known]

theorem payload_matched (first second : Event) : Matched first.payloadMembers second.payloadMembers :=
  .cons ⟨rfl, apart_quote _ _⟩ (.cons ⟨rfl, apart_object (FirewallRule.matched _ _)⟩ .nil)

theorem matched (first second : Event) : Matched first.members second.members :=
  .cons ⟨rfl, apart_object (EventHeader.matched _ _)⟩ (.cons ⟨rfl, apart_object (payload_matched _ _)⟩ .nil)

theorem json?_inj {first second : Event} {line : String} (told : first.json? = some line)
    (also : second.json? = some line) : first = second := by
  obtain ⟨known, rfl⟩ := json?_eq_some.mp told
  obtain ⟨later, same⟩ := json?_eq_some.mp also
  have members := object_inj (matched first second) same.symm
  simp only [Event.members, List.cons.injEq, Prod.mk.injEq, true_and, and_true] at members
  obtain ⟨header, payload⟩ := members
  have content := object_inj (payload_matched first second) payload
  simp only [payloadMembers, List.cons.injEq, Prod.mk.injEq, true_and, and_true] at content
  have rule := FirewallRule.members_inj (object_inj (FirewallRule.matched _ _) content)
  have sender := EventHeader.members_inj known later (object_inj (EventHeader.matched _ _) header)
  cases first
  cases second
  rw [Event.mk.injEq]
  exact ⟨sender, rule⟩

theorem exists_json {event : Event} (known : 0 ≤ event.header.timestamp.seconds) : ∃ line, event.json? = some line :=
  ⟨_, json?_eq_some.mpr ⟨known, rfl⟩⟩

theorem jsonLines_eq_ok {events : List Event} {lines : List String} :
    jsonLines events = .ok lines ↔ List.Forall₂ (fun event line => event.json? = some line) events lines := by
  rw [jsonLines, mapM_eq_ok]
  constructor
  · refine .imp fun event line read => ?_
    split at read
    next text written =>
      cases read
      exact written
    next unwritten => cases read
  · refine .imp fun event line written => ?_
    rw [written]

theorem jsonLines_inj {events others : List Event} {lines : List String} (told : jsonLines events = .ok lines)
    (also : jsonLines others = .ok lines) : events = others := by
  have unique : Relator.LeftUnique fun (event : Event) line => event.json? = some line := fun _ _ _ => json?_inj
  exact unique.forall₂ (jsonLines_eq_ok.mp told) (jsonLines_eq_ok.mp also)

/-- What a line tells: one event, in full, and within the line. -/
structure Tells (event : Event) (line : String) : Prop where
  written : event.json? = some line
  unbroken : Unbroken line
  alone : ∀ {other : Event}, other.json? = some line → other = event

theorem tells_of_json {event : Event} {line : String} (written : event.json? = some line) : Tells event line :=
  ⟨written, unbroken_json written, fun also => json?_inj also written⟩

/-- Events that are not from before the epoch have a line each, in their order, whatever characters there are in their
texts. The lines tell them apart from all other events, and so does each of the lines. -/
theorem lines_tell {events : List Event} (known : ∀ event ∈ events, 0 ≤ event.header.timestamp.seconds) :
    ∃ lines, jsonLines events = .ok lines ∧ List.Forall₂ Tells events lines ∧
      ∀ others, jsonLines others = .ok lines → others = events := by
  obtain ⟨lines, read⟩ : ∃ lines, jsonLines events = .ok lines := by
    apply mapM_total
    intro event member
    obtain ⟨line, written⟩ := exists_json (known event member)
    exact ⟨line, by rw [written]⟩
  have each := (jsonLines_eq_ok.mp read).imp fun _ _ => tells_of_json
  exact ⟨lines, read, each, fun others also => jsonLines_inj also read⟩

/-- Two rules of a chain with quotes, a backslash, line breaks and a control character in its name. They differ by a
target that is absent from one and has the name of what stands for it in the other. -/
theorem lines_tell_escaped :
    let header : EventHeader := ⟨"firewall\tcollector", "host\r\n", .nil, .epoch⟩
    let rule := FirewallRule.bare "\x22,\\\x22\n\x01é" 0
    let events : List Event := [⟨header, rule⟩, ⟨header, { rule with target := some "null" }⟩]
    (∀ event ∈ events, 0 ≤ event.header.timestamp.seconds) ∧
      ∃ lines, jsonLines events = .ok lines ∧ List.Forall₂ Tells events lines ∧
        ∀ others, jsonLines others = .ok lines → others = events :=
  have known := by decide
  ⟨known, lines_tell known⟩

end Event

end FilterWatch
