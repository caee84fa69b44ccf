import FilterWatch.Text.Blank

/-!
Settings: texts under keys, and their reading as values. A text that cannot be read is an error and
never falls back to a default.
-/

namespace FilterWatch

/-- A value that a field does not admit. -/
structure ConfigError where
  field : String
  value : String
  reason : String
  deriving DecidableEq, Repr

def ConfigError.message (error : ConfigError) : String :=
  s!"{error.value} is not a valid value for field {error.field}: {error.reason}"

/-- How a text is read as a value, or why it cannot be. -/
abbrev Reading (α : Type) := String → Except String α

namespace Reading

def text : Reading String := .ok

def switch : Reading Bool := fun text =>
  if text = "true" then .ok true
  else if text = "false" then .ok false
  else .error "provided string was not `true` or `false`"

def invalidDigit : String := "invalid digit found in string"

def digit? (c : Char) : Option Nat := if c.isDigit then some (c.toNat - '0'.toNat) else none

/-- Reads on from the left, with `sign` times the digits so far in `value`. The first character that
is no digit, or that leads out of the range, decides on the error. -/
def digits (low high sign : Int) (value : Int) : List Char → Except String Int
  | [] => .ok value
  | c :: rest =>
    match digit? c with
    | none => .error invalidDigit
    | some digit =>
      let value := value * 10 + sign * digit
      if high < value then .error "number too large to fit in target type"
      else if value < low then .error "number too small to fit in target type"
      else digits low high sign value rest

/-- A number from `low` to `high` in decimal digits. A plus sign may precede them, and a minus sign
where the range has negative numbers. -/
def integer (low high : Int) : Reading Int := fun text =>
  match text.toList with
  | [] => .error "cannot parse integer from empty string"
  | [c] => if c = '+' ∨ c = '-' then .error invalidDigit else digits low high 1 0 [c]
  | c :: rest =>
    if c = '+' then digits low high 1 0 rest
    else if c = '-' ∧ low < 0 then digits low high (-1) 0 rest
    else digits low high 1 0 (c :: rest)

def unsigned (bits : Nat) : Reading Int := integer 0 (Int.pow 2 bits - 1)

def signed (bits : Nat) : Reading Int := integer (-Int.pow 2 (bits - 1)) (Int.pow 2 (bits - 1) - 1)

end Reading

/-- Texts under keys, those set last first. -/
structure Settings where
  pairs : List (String × String)
  deriving DecidableEq, Repr

namespace Settings

def empty : Settings := ⟨[]⟩

def get? (settings : Settings) (key : String) : Option String := settings.pairs.lookup key

def insert (settings : Settings) (key value : String) : Settings :=
  ⟨(key, value) :: settings.pairs⟩

/-- The settings of a list of pairs; of equal keys the last one counts. -/
def ofList (pairs : List (String × String)) : Settings := ⟨pairs.reverse⟩

def read (reading : Reading α) (key value : String) : Except ConfigError α :=
  (reading value).mapError fun reason => ⟨key, value, reason⟩

/-- The value under a key, if there is a text. -/
def optional (settings : Settings) (reading : Reading α) (key : String) :
    Except ConfigError (Option α) :=
  match settings.get? key with
  | none => .ok none
  | some value => (read reading key value).map some

def withDefault (settings : Settings) (reading : Reading α) (key : String) (default : α) :
    Except ConfigError α :=
  (settings.optional reading key).map (·.getD default)

/-- The parts of a text between commas, without the empty ones and then without outer blanks, so
that a part of blanks alone is an empty item. -/
def items (value : String) : List String :=
  ((value.toList.splitOn ',').filter (· ≠ [])).map fun part => String.ofList (Text.trim part)

/-- The values of the list under a key; no list where there is no text. -/
def list (settings : Settings) (reading : Reading α) (key : String) : Except ConfigError (List α) :=
  match settings.get? key with
  | none => .ok []
  | some value => (items value).mapM (read reading key)

end Settings

end FilterWatch
