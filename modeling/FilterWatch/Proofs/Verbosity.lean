import FilterWatch.CommandLine
import FilterWatch.Proofs.Outcomes

/-! How much a command line asks to be logged. The flags on either side of the command are counted apart, and those
behind it, if there are any, stand in for those before it and do not add to them. -/

namespace FilterWatch.CommandLine
open Proofs.Outcomes

/-- How often an argument asks for more messages. -/
def Argument.flags : Argument → Nat
  | .long name none => if name = "verbose" then 1 else 0
  | .short letters => letters.count 'v'
  | _ => 0

@[simp]
theorem Argument.flags_word (text : String) : (Argument.word text).flags = 0 := rfl

/-- How often arguments ask for more messages. -/
def flags : List String → Nat
  | [] => 0
  | argument :: rest => (Argument.ofText argument).flags + flags rest

/-- The least grave messages that are logged for so many flags. -/
def levelOf : Nat → Level
  | 0 => .info
  | 1 => .debug
  | _ => .trace

def Argument.isOption : Argument → Bool
  | .long _ _ | .short _ => true
  | .separator | .word _ => false

/-- The next argument is the value of this one. -/
def Argument.awaits : Argument → Bool
  | .long name none => name = "config-file"
  | _ => false

/-- Arguments none of which is a command: each is an option, or the value that the option before it awaits. -/
inductive Filled : (awaiting : Bool) → List String → Prop
  | done : Filled false []
  | value {argument text : String} {rest : List String} (word : Argument.ofText argument = .word text)
      (others : Filled false rest) : Filled true (argument :: rest)
  | option {argument : String} {rest : List String} (own : (Argument.ofText argument).isOption = true)
      (others : Filled (Argument.ofText argument).awaits rest) : Filled false (argument :: rest)

/-- The command of a command line, and the arguments on both sides of it. -/
structure Division (arguments before : List String) (command : Command) (after : List String) : Prop where
  whole : arguments = before ++ command.name :: after
  filled : Filled false before

theorem flags_append (first second : List String) : flags (first ++ second) = flags first + flags second := by
  induction first with
  | nil => rw [List.nil_append, flags, Nat.zero_add]
  | cons argument rest ih => rw [List.cons_append, flags, flags, ih, Nat.add_assoc]

theorem Argument.ofText_word {text word : String} (read : ofText text = .word word) : word = text := by
  unfold ofText at read
  split at read
  · cases read
  · unfold named at read
    dsimp only at read
    split at read <;> cases read
  · cases read
  · exact (Argument.word.inj read).symm

theorem Argument.ofText_short {text : String} {letters : List Char} (read : ofText text = .short letters) :
    letters ≠ [] := by
  unfold ofText at read
  split at read
  · cases read
  · unfold named at read
    dsimp only at read
    split at read <;> cases read
  · cases read
    exact List.cons_ne_nil _ _
  · cases read

theorem Argument.ofText_name (command : Command) : ofText command.name = .word command.name := by
  cases command <;> rfl

theorem Command.ofName?_eq_some {name : String} {command : Command} (known : ofName? name = some command) :
    command.name = name := by
  unfold ofName? at known
  split at known
  next run =>
    cases known
    exact run.symm
  split at known
  next snapshot =>
    cases known
    exact snapshot.symm
  · cases known

/-! ### What an option does to what has been given -/

namespace Given

/-- An option is read where no value is awaited. It adds its flags to those before it, and may await a value itself. -/
structure Takes (given : Given) (argument : Argument) (after : Given) : Prop where
  free : given.awaited ≠ .value
  counted : after.verbosity = given.verbosity + argument.flags
  awaits : decide (after.awaited = .value) = argument.awaits

variable {given after : Given} {position : Position}

theorem enter_ok (entered : given.enter = .ok after) :
    given.awaited ≠ .value ∧ after.verbosity = given.verbosity ∧ after.awaited ≠ .value := by
  unfold enter at entered
  split at entered
  next nothing =>
    cases entered
    rw [nothing]
    exact ⟨nofun, rfl, nofun⟩
  · cases entered
  next value found =>
    rw [found]
    split at entered
    · cases entered
    · cases entered
      exact ⟨nofun, rfl, nofun⟩

theorem turn_ok {switch : Switch} (turned : given.turn position switch = .ok after) :
    given.awaited ≠ .value ∧ after.verbosity = given.verbosity + (if switch = .verbose then 1 else 0) ∧
      after.awaited ≠ .value := by
  unfold turn at turned
  obtain ⟨entered, start, turned⟩ := bind_eq_ok.mp turned
  obtain ⟨free, same, done⟩ := enter_ok start
  rw [← same]
  cases switch with
  | help | version => cases turned
  | verbose =>
    cases turned
    exact ⟨free, rfl, done⟩
  | json =>
    dsimp only at turned
    split at turned
    · cases turned
    · cases turned
      exact ⟨free, rfl, done⟩

theorem Switch.ofName?_verbose {name : String} {switch : Switch} (known : ofName? position name = some switch) :
    switch = .verbose ↔ name = "verbose" := by
  unfold ofName? at known
  split at known
  next help =>
    cases known
    exact iff_of_false nofun (by rw [help]; decide)
  split at known
  next version =>
    cases known
    exact iff_of_false nofun (by rw [version]; decide)
  split at known
  next verbose =>
    cases known
    exact iff_of_true rfl verbose
  split at known
  next json =>
    cases known
    exact iff_of_false nofun (by rw [json.1]; decide)
  · cases known

theorem long_ok {name : String} {value? : Option String} (taken : given.long position name value? = .ok after) :
    given.Takes (.long name value?) after := by
  unfold long at taken
  split at taken
  next file =>
    obtain ⟨entered, start, taken⟩ := bind_eq_ok.mp taken
    obtain ⟨free, same, -⟩ := enter_ok start
    rw [file]
    cases value? with
    | none =>
      cases taken
      exact ⟨free, same, rfl⟩
    | some value =>
      obtain ⟨-, kept, done⟩ := enter_ok taken
      exact ⟨free, kept.trans same, decide_eq_false done⟩
  next other =>
    split at taken
    · cases taken
    · cases taken
    next switch known =>
      obtain ⟨free, same, done⟩ := turn_ok taken
      refine ⟨free, ?_, ?_⟩
      · rw [same, Argument.flags]
        simp only [Switch.ofName?_verbose known]
      · rw [decide_eq_false done, Argument.awaits, decide_eq_false other]

theorem Switch.ofLetter?_verbose {letter : Char} {switch : Switch} (known : ofLetter? letter = some switch) :
    switch = .verbose ↔ letter = 'v' := by
  unfold ofLetter? at known
  split at known
  next help =>
    cases known
    exact iff_of_false nofun (by rw [help]; decide)
  split at known
  next version =>
    cases known
    exact iff_of_false nofun (by rw [version]; decide)
  split at known
  next verbose =>
    cases known
    exact iff_of_true rfl verbose
  · cases known

theorem short_ok {letters : List Char} (some : letters ≠ []) (taken : given.short position letters = .ok after) :
    given.Takes (.short letters) after := by
  unfold short at taken
  induction letters generalizing given with
  | nil => exact absurd rfl some
  | cons letter rest ih =>
    rw [List.foldlM_cons] at taken
    obtain ⟨between, first, taken⟩ := bind_eq_ok.mp taken
    split at first
    next switch known =>
      obtain ⟨free, same, done⟩ := turn_ok first
      have here : between.verbosity = given.verbosity + List.count 'v' [letter] := by
        rw [same, List.count_singleton]
        simp only [Switch.ofLetter?_verbose known, beq_iff_eq]
      have split : List.count 'v' (letter :: rest) = List.count 'v' [letter] + List.count 'v' rest := by
        rw [← List.count_append, List.singleton_append]
      by_cases last : rest = []
      · subst last
        cases taken
        exact ⟨free, here, decide_eq_false done⟩
      · obtain ⟨-, counted, ends⟩ := ih last taken
        refine ⟨free, ?_, ends⟩
        rw [counted, here, Argument.flags, Argument.flags, split, Nat.add_assoc]
    · cases first

end Given

/-! ### What is given on either side of the command -/

variable {command : Command} {given after : Given} {arguments : List String} {options : AgentOptions}

theorem readAfter_verbosity (read : readAfter command given arguments = .ok after) :
    after.verbosity = given.verbosity + flags arguments := by
  induction arguments generalizing given with
  | nil => exact (Given.enter_ok read).2.1
  | cons argument rest ih =>
    unfold readAfter at read
    rw [flags]
    split at read
    next separator =>
      split at read
      next last =>
        rw [last, separator]
        exact (Given.enter_ok read).2.1
      · cases read
    next name value? long =>
      obtain ⟨between, taken, read⟩ := bind_eq_ok.mp read
      rw [ih read, (Given.long_ok taken).counted, long, Nat.add_assoc]
    next letters short =>
      obtain ⟨between, taken, read⟩ := bind_eq_ok.mp read
      rw [ih read, (Given.short_ok (Argument.ofText_short short) taken).counted, short, Nat.add_assoc]
    next text word =>
      split at read
      · rw [ih read, word, Argument.flags_word, Nat.zero_add]
      · cases read

/-- Reading comes to a command, which divides the arguments, and takes the flags before it and those behind it. -/
theorem readFrom_divided (read : readFrom given arguments = .ok options) :
    ∃ before command after earlier later, arguments = before ++ command.name :: after ∧
      Filled (given.awaited = .value) before ∧ options = CommandLine.options command earlier later ∧
      earlier.verbosity = given.verbosity + flags before ∧ later.verbosity = flags after := by
  induction arguments generalizing given with
  | nil =>
    unfold readFrom withoutCommand at read
    obtain ⟨entered, -, read⟩ := bind_eq_ok.mp read
    cases read
  | cons argument rest ih =>
    -- An option in front leaves the rest of the arguments to be divided.
    have passed {between : Given} (own : (Argument.ofText argument).isOption = true)
        (takes : given.Takes (Argument.ofText argument) between) (read : readFrom between rest = .ok options) :
        ∃ before command after earlier later, argument :: rest = before ++ command.name :: after ∧
          Filled (given.awaited = .value) before ∧ options = CommandLine.options command earlier later ∧
          earlier.verbosity = given.verbosity + flags before ∧ later.verbosity = flags after := by
      obtain ⟨before, command, after, earlier, later, rfl, filled, same, front, back⟩ := ih read
      rw [takes.awaits] at filled
      refine ⟨argument :: before, command, after, earlier, later, rfl, ?_, same, ?_, back⟩
      · rw [decide_eq_false takes.free]
        exact .option own filled
      · rw [front, takes.counted, flags, Nat.add_assoc]
    unfold readFrom at read
    split at read
    next separator =>
      unfold afterSeparator withoutCommand at read
      split at read
      · obtain ⟨entered, -, read⟩ := bind_eq_ok.mp read
        cases read
      · cases read
    next name value? long =>
      obtain ⟨between, taken, read⟩ := bind_eq_ok.mp read
      exact passed (by rw [long]; rfl) (by rw [long]; exact Given.long_ok taken) read
    next letters short =>
      obtain ⟨between, taken, read⟩ := bind_eq_ok.mp read
      have some := Argument.ofText_short short
      exact passed (by rw [short]; rfl) (by rw [short]; exact Given.short_ok some taken) read
    next text word =>
      split at read
      next awaited =>
        obtain ⟨before, command, after, earlier, later, rfl, filled, same, front, back⟩ := ih read
        refine ⟨argument :: before, command, after, earlier, later, rfl, ?_, same, ?_, back⟩
        · rw [decide_eq_true awaited]
          exact .value word filled
        · rw [front, flags, word, Argument.flags_word, Nat.zero_add]
      next free =>
        split at read
        next command known =>
          obtain ⟨later, behind, read⟩ := bind_eq_ok.mp read
          obtain ⟨earlier, entered, read⟩ := bind_eq_ok.mp read
          cases read
          have named : command.name = argument :=
            (Command.ofName?_eq_some known).trans (Argument.ofText_word word)
          refine ⟨[], command, rest, earlier, later, by rw [named]; rfl, ?_, rfl, (Given.enter_ok entered).2.1, ?_⟩
          · rw [decide_eq_false free]
            exact .done
          · exact (readAfter_verbosity behind).trans (Nat.zero_add _)
        · cases read

/-- A command line has no two commands. -/
theorem Filled.unique {awaiting : Bool} {before others after rest : List String} {command other : Command}
    (filled : Filled awaiting before) (also : Filled awaiting others)
    (same : before ++ command.name :: after = others ++ other.name :: rest) : before = others ∧ after = rest := by
  have named (command : Command) : (Argument.ofText command.name).isOption = false := by
    rw [Argument.ofText_name]
    rfl
  induction filled generalizing others with
  | done =>
    cases also with
    | done => exact ⟨rfl, (List.cons.inj same).2⟩
    | option own =>
      obtain ⟨rfl, -⟩ := List.cons.inj same
      rw [named] at own
      cases own
  | value word _ ih =>
    cases also with
    | value again further =>
      obtain ⟨rfl, later⟩ := List.cons.inj same
      obtain ⟨rfl, rest⟩ := ih further later
      exact ⟨rfl, rest⟩
  | option own _ ih =>
    cases also with
    | done =>
      obtain ⟨rfl, -⟩ := List.cons.inj same
      rw [named] at own
      cases own
    | option again further =>
      obtain ⟨rfl, later⟩ := List.cons.inj same
      obtain ⟨rfl, rest⟩ := ih further later
      exact ⟨rfl, rest⟩

theorem level_eq (options : AgentOptions) : options.level = levelOf options.verbosity := rfl

/-- Flags behind the command make up for those before it unless there is exactly one behind it. -/
theorem levelOf_behind (before after : Nat) :
    levelOf (if after = 0 then before else after) = levelOf (before + after) ↔ before = 0 ∨ after ≠ 1 := by
  match before, after with
  | 0, 0 => simp
  | 0, after + 1 => simp
  | before + 1, 0 => simp
  | before + 1, 1 => simp [levelOf]
  | before + 1, after + 2 => simp [levelOf]

/-- An accepted command line is divided by its command, and in one way only. What is logged is told by the flags behind
the command, if there are any, and otherwise by those before it. It is what all flags together ask for, unless exactly
one of them stands behind the command and others before it. -/
theorem level_of_flags {arguments : List String} {options : AgentOptions} (accepted : read arguments = .ok options) :
    (∃ before command after, Division arguments before command after) ∧
    ∀ before command after, Division arguments before command after →
      flags arguments = flags before + flags after ∧
      options.level = levelOf (if flags after = 0 then flags before else flags after) ∧
      (options.level = levelOf (flags arguments) ↔ flags before = 0 ∨ flags after ≠ 1) := by
  obtain ⟨before, command, after, earlier, later, split, filled, rfl, front, back⟩ := readFrom_divided accepted
  have start : Given.none.verbosity = 0 := rfl
  rw [start, Nat.zero_add] at front
  refine ⟨⟨before, command, after, split, filled⟩, ?_⟩
  rintro others other rest ⟨whole, also⟩
  obtain ⟨rfl, rfl⟩ := filled.unique also (split.symm.trans whole)
  have silent : flags [command.name] = 0 := by
    rw [flags, Argument.ofText_name, Argument.flags_word, flags]
  have total : flags arguments = flags before + flags after := by
    rw [split, flags_append, ← List.singleton_append, flags_append, silent, Nat.zero_add]
  have level : (CommandLine.options command earlier later).level =
      levelOf (if flags after = 0 then flags before else flags after) := by
    simp only [level_eq, CommandLine.options, front, back]
  refine ⟨total, level, ?_⟩
  rw [level, total]
  exact levelOf_behind _ _

/-- One flag on each side of the command, and the same two flags before it. -/
theorem flags_apart : read ["-v", "run", "-v"] = .ok ⟨none, .run, 1⟩ ∧ read ["-v", "-v", "run"] = .ok ⟨none, .run, 2⟩ ∧
    flags ["-v", "run", "-v"] = 2 ∧ flags ["-v", "-v", "run"] = 2 ∧
    AgentOptions.level ⟨none, .run, 1⟩ = .debug ∧ AgentOptions.level ⟨none, .run, 2⟩ = .trace ∧
    levelOf 2 = .trace := by
  refine ⟨rfl, rfl, ?_⟩
  decide +kernel

/-- Two flags before the command, one of its options with a value, and one flag behind it. -/
theorem level_of_flags_around :
    let arguments := ["-vv", "--config-file", "run", "snapshot", "--verbose", "--json"]
    read arguments = .ok ⟨some "run", .snapshot true, 1⟩ ∧
      Division arguments ["-vv", "--config-file", "run"] .snapshot ["--verbose", "--json"] ∧
      AgentOptions.level ⟨some "run", .snapshot true, 1⟩ = .debug := by
  intro arguments
  have accepted : read arguments = .ok ⟨some "run", .snapshot true, 1⟩ := rfl
  have division : Division arguments ["-vv", "--config-file", "run"] .snapshot ["--verbose", "--json"] :=
    ⟨rfl, .option (by decide +kernel) (.option (by decide +kernel) (.value rfl .done))⟩
  obtain ⟨-, level, -⟩ := (level_of_flags accepted).2 _ _ _ division
  exact ⟨accepted, division, level⟩

end FilterWatch.CommandLine
