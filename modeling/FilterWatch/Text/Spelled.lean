import FilterWatch.Text.Extending
import FilterWatch.Text.Hex
import FilterWatch.Text.Ignorable
import FilterWatch.Text.Unprintable

/-!
Texts and characters as they are spelled in messages: in quotes, with escapes. A character that would
not be seen, or would be drawn onto the character before it, is spelled by its code.
-/

namespace FilterWatch.Text

/-- The code of a character, without leading zeros. -/
def spelledCode (c : Char) : List Char :=
  ['\\', 'u', '\x7b'] ++ (hexDigits 6 c.toNat).dropWhile (· = '0') ++ ['\x7d']

/-- A character within quotes of some kind, which the text itself has to escape. -/
def spelledChar (quotes : List Char) (c : Char) : List Char :=
  if c = '\\' ∨ c ∈ quotes then ['\\', c]
  else if c = '\n' then ['\\', 'n']
  else if c = '\r' then ['\\', 'r']
  else if c = '\t' then ['\\', 't']
  else if c.toNat = 0 then ['\\', '0']
  else if c ∈ extending ∨ c ∈ ignorable ∨ c ∈ unprintable then spelledCode c
  else [c]

def spelledWithin (quote : Char) (escapes : List Char) (text : String) : String :=
  String.ofList (quote :: text.toList.flatMap (spelledChar escapes) ++ [quote])

def spelled (text : String) : String := spelledWithin '\x22' ['\x22'] text

/-- The name of a file, in which an apostrophe is escaped as well. -/
def spelledPath (path : String) : String := spelledWithin '\x22' ['\x22', '\x27'] path

/-- A character, or that there is none. -/
def spelledOption : Option Char → String
  | some c => "Some(" ++ spelledWithin '\x27' ['\x27'] (String.singleton c) ++ ")"
  | none => "None"

end FilterWatch.Text
