import FilterWatch.Text.Hex

/-! Identifiers of 128 bits, and their texts. -/

namespace FilterWatch

structure Uuid where
  bits : BitVec 128
  deriving DecidableEq, Repr

namespace Uuid

def nil : Uuid := ⟨0⟩

/-- The identifier of the kind that is made of random bits: all but six of the given ones. -/
def random (entropy : BitVec 128) : Uuid :=
  let version : BitVec 128 := 4#128 <<< 76
  let kind : BitVec 128 := 2#128 <<< 62
  ⟨entropy &&& ~~~(15#128 <<< 76) &&& ~~~(3#128 <<< 62) ||| version ||| kind⟩

/-- How the identifier was made. -/
def version (id : Uuid) : Nat := (id.bits >>> 76 &&& 15#128).toNat

/-- The 32 digits in groups of 8, 4, 4, 4 and 12. -/
def text (id : Uuid) : String :=
  let digits := Text.hexDigits 32 id.bits.toNat
  let group (start length : Nat) := String.ofList ((digits.drop start).take length)
  "-".intercalate [group 0 8, group 8 4, group 12 4, group 16 4, group 20 12]

/-- The digits of a text with hyphens between its groups. -/
def groups? (text : List Char) : Option (List Char) :=
  if [8, 13, 18, 23].all (fun place => text[place]? = some '-') then
    some (text.take 8 ++ (text.drop 9).take 4 ++ (text.drop 14).take 4 ++ (text.drop 19).take 4 ++
      text.drop 24)
  else none

/-- What stands before an identifier that is written as a name. Either case of its letters will
do. -/
def scheme : List Char := "urn:uuid:".toList

/-- The digits of a text in one of the four known forms: plain, with hyphens, with hyphens in
braces, and with hyphens after the scheme. -/
def digits? (text : List Char) : Option (List Char) :=
  if text.length = 32 then some text
  else if text.length = 36 then groups? text
  else if text.length = 38 ∧ text.head? = some '\x7b' ∧ text.getLast? = some '\x7d' then
    groups? ((text.drop 1).dropLast)
  else if text.length = 45 ∧ (text.take 9).map Char.toLower = scheme then groups? (text.drop 9)
  else none

def parse? (text : String) : Option Uuid := do
  let digits ← digits? text.toList
  return ⟨BitVec.ofNat 128 (← Text.ofHex? digits)⟩

end Uuid

end FilterWatch
