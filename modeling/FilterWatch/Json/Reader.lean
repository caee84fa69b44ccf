import FilterWatch.Json.Magnitude
import FilterWatch.Text.Hex

/-!
Reading JSON from left to right into a shape that is known beforehand. The text is judged while it
is read, so of several faults the first in the text is reported, be it a fault of form or of shape.
-/

namespace FilterWatch.Json

/-- Why a text cannot be read. -/
inductive Fault
  /-- It is no JSON. -/
  | malformed
  /-- It ends too early. -/
  | truncated
  /-- It is JSON of another shape. -/
  | misshapen
  deriving DecidableEq, Repr

/-- A reader takes what it reads from the rest of the text. -/
abbrev Reader (α : Type) := StateT (List Char) (Except Fault) α

/-- What a number in the text can be used as. -/
inductive Number
  | natural (value : Nat)
  | other
  deriving DecidableEq, Repr

/-- A value of any shape, as far as its use can depend on it. -/
inductive Value
  | null
  | truth (value : Bool)
  | number (value : Number)
  | text (value : String)
  | list (items : List Value)
  | object (members : List (String × Value))

namespace Reader

def isBlank (c : Char) : Bool := c = ' ' || c = '\n' || c = '\t' || c = '\r'

/-- The next character that is no blank; it stays. -/
def peek? : Reader (Option Char) := do
  let rest := (← get).dropWhile isBlank
  set rest
  return rest.head?

def peek : Reader Char := do
  match ← peek? with
  | some c => return c
  | none => throw .truncated

def skip : Reader Unit := modify List.tail

def word : List Char → Reader Unit
  | [] => return ()
  | expected :: others => do
    match (← get).head? with
    | none => throw .truncated
    | some c => if c = expected then do skip; word others else throw .malformed

/-- Takes the rest of a word of which the first character is at hand. -/
def literal (text : String) : Reader Unit := do
  skip
  word (text.toList.drop 1)

/-! ### Strings -/

/-- Takes four hexadecimal digits. A text of fewer than four more bytes is too short for them. -/
def hexEscape (text : List Char) : Except Fault (Nat × List Char) :=
  if (String.ofList (text.take 4)).utf8ByteSize < 4 then .error .truncated
  else
    match Text.ofHex? (text.take 4) with
    | some value => .ok (value, text.drop 4)
    | none => .error .malformed

def isLeading (unit : Nat) : Bool := 0xD800 ≤ unit && unit ≤ 0xDBFF

def isTrailing (unit : Nat) : Bool := 0xDC00 ≤ unit && unit ≤ 0xDFFF

/-- The character of one escaped unit or of a pair of them. -/
def unicodeEscape (text : List Char) : Except Fault (Char × List Char) := do
  let (unit, rest) ← hexEscape text
  if isTrailing unit then throw .malformed
  if isLeading unit then
    match rest with
    | [] => throw .truncated
    | c :: rest =>
      if c ≠ '\\' then throw .malformed
      match rest with
      | [] => throw .truncated
      | c :: rest =>
        if c ≠ 'u' then throw .malformed
        let (second, rest) ← hexEscape rest
        if isTrailing second then
          return (Char.ofNat (0x10000 + (unit - 0xD800) * 0x400 + (second - 0xDC00)), rest)
        throw .malformed
  return (Char.ofNat unit, rest)

/-- The characters that have an escape of one letter. -/
def shortEscapes : List (Char × Char) := [
  ('\x22', '\x22'), ('\\', '\\'), ('/', '/'), ('b', '\x08'), ('f', '\x0c'), ('n', '\n'),
  ('r', '\r'), ('t', '\t')]

/-- What follows a backslash. A strict reader wants the units of a pair together; another one does
not look at them, and gets no character. -/
def escaped (strict : Bool) : List Char → Except Fault (List Char × List Char)
  | [] => .error .truncated
  | c :: rest =>
    if c = 'u' then
      if strict then (unicodeEscape rest).map fun (c, rest) => ([c], rest)
      else (hexEscape rest).map fun (_, rest) => ([], rest)
    else
      match shortEscapes.lookup c with
      | some c => .ok ([c], rest)
      | none => .error .malformed

/-- The characters up to the closing quote, and what follows it. Every step takes a character, so as
many steps as there are characters are enough. -/
def characters (strict : Bool) : (steps : Nat) → List Char → Except Fault (List Char × List Char)
  | 0, _ | _, [] => .error .truncated
  | steps + 1, c :: rest => do
    if c = '\x22' then return ([], rest)
    let (first, rest) ←
      if c = '\\' then escaped strict rest
      else if c.toNat < 0x20 then throw .malformed
      else pure ([c], rest)
    let (others, rest) ← characters strict steps rest
    return (first ++ others, rest)

def quoted (strict : Bool) : Reader String := do
  skip
  let text ← get
  let (content, rest) ← characters strict text.length text
  set rest
  return String.ofList content

/-! ### Numbers -/

def digits : Reader (List Char) := do
  let text ← get
  set (text.dropWhile Char.isDigit)
  return text.takeWhile Char.isDigit

/-- Takes the digits that stand next, of which there has to be one. -/
def someDigits (atEnd : Fault) : Reader (List Char) := do
  match (← get).head? with
  | none => throw atEnd
  | some c => if c.isDigit then digits else throw .malformed

/-- Takes the digits before the point: a zero alone, or digits that do not begin with one. -/
def wholeDigits (atEnd : Fault) : Reader (List Char) := do
  let found ← someDigits atEnd
  if found.head? = some '0' ∧ 1 < found.length then throw .malformed
  return found

def exponent? (atEnd : Fault) : Reader (Option Int) := do
  match (← get).head? with
  | some c =>
    if c = 'e' ∨ c = 'E' then
      skip
      let sign := (← get).head?
      if sign = some '+' ∨ sign = some '-' then skip
      let found ← someDigits atEnd
      let value : Int := (String.ofList found).toNat?.getD 0
      return some (if sign = some '-' then -value else value)
    return none
  | none => return none

def fraction? (atEnd : Fault) : Reader (Option (List Char)) := do
  if (← get).head? = some '.' then
    skip
    some <$> someDigits atEnd
  else return none

def number : Reader Number := do
  let negative := (← get).head? = some '-'
  if negative then skip
  let whole ← wholeDigits .truncated
  let fraction ← fraction? .truncated
  let exponent ← exponent? .truncated
  if fraction.isNone ∧ exponent.isNone then
    let value := (String.ofList whole).toNat?.getD 0
    if value < Nat.pow 2 64 then return if negative then .other else .natural value
  if (Magnitude.ofDigits whole (fraction.getD []) (exponent.getD 0)).overflows then
    throw .malformed
  return .other

/-- Takes a number, whatever its value. The end of the text within it is a fault of form. -/
def skipNumber : Reader Unit := do
  if (← get).head? = some '-' then skip
  let _ ← wholeDigits .malformed
  let _ ← fraction? .malformed
  let _ ← exponent? .malformed

def startsNumber (c : Char) : Bool := c = '-' || c.isDigit

/-! ### Objects and lists -/

def colon : Reader Unit := do
  if (← peek) = ':' then skip else throw .malformed

/-- Takes the members up to the closing brace, each by `step` from behind its name. Every member
takes a character, so as many rounds as there are characters are enough. -/
def members (strict : Bool) (step : σ → String → Reader σ) :
    (rounds : Nat) → (first : Bool) → σ → Reader σ
  | 0, _, _ => throw .truncated
  | rounds + 1, first, state => do
    let c ← peek
    if c = '\x7d' then
      skip
      return state
    if !first then
      if c ≠ ',' then throw .malformed
      skip
    if (← peek) ≠ '\x22' then throw .malformed
    let name ← quoted strict
    members strict step rounds false (← step state name)

def object (strict : Bool) (start : σ) (step : σ → String → Reader σ) : Reader σ := do
  skip
  members strict step ((← get).length + 1) true start

/-- Whether another item of a list follows; takes the comma before it. -/
def hasItem (first : Bool) : Reader Bool := do
  let c ← peek
  if c = ']' then return false
  if first then return true
  if c ≠ ',' then throw .malformed
  skip
  if (← peek) = ']' then throw .malformed
  return true

/-- Takes one item of a list, which has to be there. -/
def item (first : Bool) (reader : Reader α) : Reader α := do
  if ← hasItem first then reader else throw .misshapen

def closeList : Reader Unit := do
  if (← peek) = ']' then skip else throw .malformed

def items (reader : Reader α) : (rounds : Nat) → (first : Bool) → Reader (List α)
  | 0, _ => throw .truncated
  | rounds + 1, first => do
    if ← hasItem first then
      let item ← reader
      let others ← items reader rounds false
      return item :: others
    else return []

def list (reader : Reader α) : Reader (List α) := do
  skip
  let found ← items reader ((← get).length + 1) true
  closeList
  return found

/-- Takes a value without looking at it, up to some depth of nesting. -/
def ignored : (depth : Nat) → Reader Unit
  | 0 => throw .truncated
  | depth + 1 => do
    let c ← peek
    if c = 'n' then literal "null"
    else if c = 't' then literal "true"
    else if c = 'f' then literal "false"
    else if c = '\x22' then discard (quoted false)
    else if startsNumber c then skipNumber
    else if c = '[' then discard (list (ignored depth))
    else if c = '\x7b' then
      object false () fun _ _ => do
        colon
        ignored depth
    else throw .malformed

def ignore : Reader Unit := do ignored ((← get).length + 1)

/-- Takes a value of any shape. Nesting `depth` deep is a fault of form. -/
def value : (depth : Nat) → Reader Value
  | 0 => throw .malformed
  | depth + 1 => do
    let c ← peek
    if c = 'n' then do literal "null"; return .null
    else if c = 't' then do literal "true"; return .truth true
    else if c = 'f' then do literal "false"; return .truth false
    else if c = '\x22' then .text <$> quoted true
    else if startsNumber c then .number <$> number
    else if (c = '[' ∨ c = '\x7b') ∧ depth = 0 then throw .malformed
    else if c = '[' then .list <$> list (value depth)
    else if c = '\x7b' then
      .object <$> object true [] fun members name => do
        colon
        return members ++ [(name, ← value depth)]
    else throw .malformed

/-! ### Expected shapes -/

/-- Refuses the value that follows: as malformed if it turns out so before its shape is clear. -/
def mismatch : Reader α := do
  let c ← peek
  if c = 'n' then literal "null"
  else if c = 't' then literal "true"
  else if c = 'f' then literal "false"
  else if c = '\x22' then discard (quoted true)
  else if startsNumber c then discard number
  else if c ≠ '[' ∧ c ≠ '\x7b' then throw .malformed
  throw .misshapen

def string : Reader String := do
  if (← peek) = '\x22' then quoted true else mismatch

/-- A natural number below a limit. -/
def natural (limit : Nat) : Reader Nat := do
  if startsNumber (← peek) then
    match ← number with
    | .natural value => if value < limit then return value else throw .misshapen
    | .other => throw .misshapen
  else mismatch

def nullable (reader : Reader α) : Reader (Option α) := do
  if (← peek?) = some 'n' then do literal "null"; return none
  else some <$> reader

def null : Reader Unit := do
  if (← peek) = 'n' then literal "null" else mismatch

/-- One of several names, alone or as the only member, with the value null, of an object. -/
def named (ofName? : String → Option α) : Reader α := do
  let c ← peek
  let known (name : String) : Reader α :=
    match ofName? name with
    | some found => return found
    | none => throw .misshapen
  if c = '\x22' then known (← quoted true)
  else if c = '\x7b' then
    skip
    if (← peek) ≠ '\x22' then throw .malformed
    let found ← known (← quoted true)
    colon
    null
    if (← peek) = '\x7d' then
      skip
      return found
    throw .malformed
  else throw .malformed

/-- An object, or the list of its members' values. -/
def structured (fromObject fromItems : Reader α) : Reader α := do
  let c ← peek
  if c = '\x7b' then fromObject
  else if c = '[' then
    skip
    let found ← fromItems
    closeList
    return found
  else mismatch

def once (old : Option α) (reader : Reader α) : Reader (Option α) := do
  if old.isSome then throw .misshapen
  colon
  some <$> reader

def required (found : Option α) : Reader α :=
  match found with
  | some value => return value
  | none => throw .misshapen

/-- Takes a member that nobody asks for. -/
def unknown (state : σ) : Reader σ := do
  colon
  ignore
  return state

/-- Reads a whole text; nothing but blanks may follow the value. -/
def run (reader : Reader α) (text : String) : Except Fault α := do
  let (found, rest) ← StateT.run reader text.toList
  if rest.all isBlank then return found else throw .malformed

end Reader

end FilterWatch.Json
