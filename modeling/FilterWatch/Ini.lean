import FilterWatch.Text.Blank
import FilterWatch.Text.Hex
import FilterWatch.Text.Spelled

/-!
Reading INI texts: sections in brackets, and properties, a key and a value each. Section names, keys
and values have escapes, and lose their outer blanks. The result is the list of all properties in
the order of the text, each with the section that it stands in; nothing is merged.
-/

namespace FilterWatch

/-- A property in the order of the text. Those before the first section stand in none. -/
structure IniProperty where
  sectionName? : Option String
  key : String
  value : String
  deriving DecidableEq, Repr

namespace Ini

/-- The place of a character: the line breaks up to it, and the characters since the last one. -/
structure Place where
  line : Nat
  column : Nat
  deriving DecidableEq, Repr

/-- The place of the next character, seen from the place of the one before. At the end of the text,
the place stays. -/
def Place.next (place : Place) : List Char → Place
  | [] => place
  | c :: _ => if c = '\n' then ⟨place.line + 1, 0⟩ else ⟨place.line, place.column + 1⟩

/-- The rest of the text, and the place of its first character. -/
structure Scanner where
  rest : List Char
  place : Place
  deriving DecidableEq, Repr

namespace Scanner

def start (text : List Char) : Scanner := ⟨text, Place.next ⟨0, 0⟩ text⟩

def advance (scanner : Scanner) : Scanner :=
  ⟨scanner.rest.tail, scanner.place.next scanner.rest.tail⟩

def skipWhile (p : Char → Bool) : List Char → Place → Scanner
  | [], place => ⟨[], place⟩
  | c :: rest, place => if p c then skipWhile p rest (place.next rest) else ⟨c :: rest, place⟩

def skip (scanner : Scanner) (p : Char → Bool) : Scanner :=
  skipWhile p scanner.rest scanner.place

end Scanner

structure Error where
  place : Place
  text : String
  deriving DecidableEq, Repr

/-- Lines and columns are told from one on. -/
def Error.message (error : Error) : String :=
  s!"{error.place.line + 1}:{error.place.column + 1} {error.text}"

inductive Stops
  | bracket
  | assignment
  | quote (c : Char)
  | lineEnd
  deriving DecidableEq, Repr

namespace Stops

/-- The ends, with none for the end of the text. -/
def list : Stops → List (Option Char)
  | bracket => [some ']']
  | assignment => [some '=', some ':']
  | quote c => [some c]
  | lineEnd => [some '\n', some '\r', none]

def text (stops : Stops) : String :=
  "[" ++ ", ".intercalate (stops.list.map Text.spelledOption) ++ "]"

def ended (stops : Stops) (place : Place) : Error :=
  ⟨place, s!"expecting \"{stops.text}\" but found EOF."⟩

end Stops

/-- The characters of escapes of one letter; any other character but two escapes itself. -/
def simpleEscape (c : Char) : Char :=
  if c = '0' then '\x00'
  else if c = 'a' then '\x07'
  else if c = 'b' then '\x08'
  else if c = 't' then '\t'
  else if c = 'r' then '\r'
  else if c = 'n' then '\n'
  else c

/-- Takes the next characters after the present one, and stays on the last of them. A backslash
among them has to stand before a line break, and takes it along. -/
def codeDigits (stops : Stops) : (count : Nat) → Scanner → Except Error (List Char × Scanner)
  | 0, scanner => .ok ([], scanner)
  | count + 1, scanner => do
    let scanner := scanner.advance
    match scanner.rest with
    | [] => throw (stops.ended scanner.place)
    | c :: _ =>
      let scanner ←
        if c = '\\' then
          let broken := scanner.advance
          if broken.rest.head? = some '\n' then pure broken
          else throw ⟨broken.place,
            s!"expecting \"\\\\n\" but found \"{Text.spelledOption broken.rest.head?}\"."⟩
        else pure scanner
      let (others, scanner) ← codeDigits stops count scanner
      return (c :: others, scanner)

/-- The character with a code; a plus sign may stand in place of the first digit. -/
def ofCode? (digits : List Char) : Option Char := do
  let digits := if digits.head? = some '+' then digits.tail else digits
  let code ← Text.ofHex? digits
  if code.isValidChar then return Char.ofNat code else none

/-- Reads up to one of the ends, which stays. Every step takes a character, so as many steps as
there are characters are enough. -/
def readSteps (stops : Stops) : (steps : Nat) → Scanner → Except Error (List Char × Scanner)
  | 0, scanner => throw (stops.ended scanner.place)
  | steps + 1, scanner => do
    if stops.list.contains scanner.rest.head? then return ([], scanner)
    match scanner.rest with
    | [] => throw (stops.ended scanner.place)
    | c :: _ =>
      let (piece, scanner) ←
        if c = '\\' then
          let escape := scanner.advance
          match escape.rest with
          | [] => throw (stops.ended escape.place)
          | e :: _ =>
            if e = '\n' then pure ([], escape)
            else if e = 'x' then do
              let (digits, scanner) ← codeDigits stops 4 escape
              match ofCode? digits with
              | some c => pure ([c], scanner)
              | none => throw ⟨scanner.place, "unknown character in \\xHH form"⟩
            else pure ([simpleEscape e], escape)
        else pure ([c], scanner)
      let (others, scanner) ← readSteps stops steps scanner.advance
      return (piece ++ others, scanner)

def readUntil (stops : Stops) (scanner : Scanner) : Except Error (List Char × Scanner) :=
  readSteps stops (scanner.rest.length + 1) scanner

def isLineBreak (c : Char) : Bool := c = '\n' || c = '\r'

/-- Reads the value after an assignment sign. What stands behind a quoted value in its line belongs
to the value. -/
def readValue (scanner : Scanner) : Except Error (List Char × Scanner) := do
  let scanner := scanner.advance.skip fun c => Text.isBlank c && !isLineBreak c
  match scanner.rest with
  | [] => return ([], scanner)
  | c :: _ =>
    if c = '\x22' ∨ c = '\x27' then
      let (quoted, scanner) ← readUntil (.quote c) scanner.advance
      let (others, scanner) ← readUntil .lineEnd scanner.advance
      return (quoted ++ others, scanner)
    else readUntil .lineEnd scanner

structure State where
  sectionName? : Option String
  /-- The key that waits for its value. -/
  key : List Char
  properties : List IniProperty
  deriving DecidableEq, Repr

def readItem (state : State) (scanner : Scanner) (c : Char) : Except Error (State × Scanner) := do
  if c = ';' ∨ c = '#' then
    if 1 < scanner.place.column then
      throw ⟨scanner.place, "doesn't support inline comment"⟩
    return (state, (scanner.skip (· ≠ '\n')).advance)
  else if c = '[' then
    let (name, scanner) ← readUntil .bracket scanner.advance
    return ({ state with sectionName? := some (String.ofList (Text.trim name)) }, scanner.advance)
  else if c = '=' ∨ c = ':' then
    if state.key = [] then throw ⟨scanner.place, "missing key"⟩
    let (value, scanner) ← readValue scanner
    let property : IniProperty :=
      ⟨state.sectionName?, String.ofList state.key, String.ofList (Text.trim value)⟩
    return ({ state with key := [], properties := state.properties ++ [property] }, scanner)
  else
    let (key, scanner) ← readUntil .assignment scanner
    return ({ state with key := Text.trim key }, scanner)

/-- Reads all items. Every one takes a character, except a key that is followed by its sign. -/
def readItems : (steps : Nat) → State → Scanner → Except Error State
  | 0, state, _ => .ok state
  | steps + 1, state, scanner => do
    let scanner := scanner.skip Text.isBlank
    match scanner.rest with
    | [] => return state
    | c :: _ =>
      let (state, scanner) ← readItem state scanner c
      readItems steps state scanner

def parse (text : String) : Except Error (List IniProperty) := do
  let text := text.toList
  let state ← readItems (2 * text.length + 1) ⟨none, [], []⟩ (Scanner.start text)
  return state.properties

end Ini

end FilterWatch
