import FilterWatch.Text.Hex

/-!
Writing JSON without blanks. Strings escape the quote, the backslash and the control characters
below the blank, and nothing else.
-/

namespace FilterWatch.Json

/-- A character as it stands in a string. -/
def escape (c : Char) : List Char :=
  if c = '\x22' then ['\\', '\x22']
  else if c = '\\' then ['\\', '\\']
  else if c = '\x08' then ['\\', 'b']
  else if c = '\t' then ['\\', 't']
  else if c = '\n' then ['\\', 'n']
  else if c = '\x0c' then ['\\', 'f']
  else if c = '\r' then ['\\', 'r']
  else if c.toNat < 0x20 then ['\\', 'u'] ++ Text.hexDigits 4 c.toNat
  else [c]

def quote (text : String) : String :=
  "\x22" ++ String.ofList (text.toList.flatMap escape) ++ "\x22"

def optional (text : Option String) : String :=
  match text with
  | some text => quote text
  | none => "null"

def object (members : List (String × String)) : String :=
  "\x7b" ++ ",".intercalate (members.map fun (name, value) => quote name ++ ":" ++ value) ++ "\x7d"

end FilterWatch.Json
