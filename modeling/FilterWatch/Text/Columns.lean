import FilterWatch.Text.Columnless
import FilterWatch.Text.Emoji
import FilterWatch.Text.Ligature
import FilterWatch.Text.Wide

/-!
The columns that a line takes on a terminal. A character alone takes two if it is wide, none if it
only adds to the character before it, and else one. Ligatures, and emoji that are put together from
several characters, take fewer or more than that, so the line is measured from its end: what stands
behind a character decides what it adds.
-/

namespace FilterWatch.Text

/-- The columns of a character that stands alone. -/
def columnsAlone (c : Char) : Nat :=
  match c.toNat with
  | 0x115F | 0x17A4 => 2
  | 0x17D8 => 3
  | 0x2D7F => 1
  | _ => if c ∈ columnless then 0 else if c ∈ wide then 2 else 1

/-- What begins behind a place of a line, as far as the width of what comes before it depends on
it. -/
inductive Sequel
  | other
  | alef
  /-- The end of a ligature, with a joiner in front of it or without. -/
  | ligature (part : LigatureEnd) (hasJoiner : Bool)
  /-- The Kirat Rai vowel sign e. -/
  | vowelE
  /-- The Kirat Rai vowel sign ai, or the two signs e that it is made of. -/
  | vowelAi
  /-- An emoji. -/
  | emoji
  /-- A skin tone. -/
  | modifier
  /-- A single letter of a flag. -/
  | indicator
  /-- Several letters of flags. -/
  | indicators
  /-- A joiner, and an emoji to which it joins what comes before. -/
  | joined
  /-- The frame of a key, joined to an emoji. -/
  | joinedKey
  /-- A single letter of a flag, joined to an emoji. -/
  | joinedIndicator
  /-- Pairs of letters, the last of them joined to an emoji. -/
  | joinedPairs
  /-- A single letter and pairs of them, the last of them joined to an emoji. -/
  | joinedIndicatorAndPairs
  /-- So many letters at the end of the name of a region, joined to an emoji. -/
  | joinedLetters (count : Nat)
  /-- So many digits, and letters at the end of the name of a region, joined to an emoji. -/
  | joinedDigits (count : Nat)
  deriving DecidableEq, Repr

/-- A character that asks for a form of the character before it. -/
inductive Selector
  /-- The form of text, of what is otherwise an emoji. -/
  | text
  /-- The form of an emoji, of what is otherwise text. -/
  | emoji
  /-- The form as wide as an ideograph, of a quotation mark. -/
  | fullWidth
  deriving DecidableEq, Repr

def joiner : Nat := 0x200D

def Selector.ofChar? (c : Char) : Option Selector :=
  match c.toNat with
  | 0xFE01 => some .fullWidth
  | 0xFE0E => some .text
  | 0xFE0F => some .emoji
  | _ => none

namespace Sequel

/-- What a character that stands alone is to the characters before it. -/
def ofChar (c : Char) : Sequel :=
  match LigatureEnd.ofChar? c with
  | some part => ligature part false
  | none =>
    if c ∈ alefs then alef
    else if c.toNat = 0x16D67 then vowelE
    else if c.toNat = 0x16D68 then vowelAi
    else if c ∈ regionalIndicators then indicator
    else if c ∈ emojiModifiers then modifier
    else if c ∈ emojiPresentation then emoji
    else other

def isJoined : Sequel → Bool
  | joined | joinedKey => true
  | _ => false

/-- What remains of it behind a selector. A ligature is not interrupted by one, and a joined emoji
can be of the emoji form. -/
def behind : Selector → Sequel → Sequel
  | _, alef => alef
  | _, ligature part hasJoiner => ligature part hasJoiner
  | .emoji, joined => joined
  | .emoji, joinedKey => joinedKey
  | _, _ => other

/-- The tags that spell the name of a region. -/
def isLetterTag (c : Char) : Bool := 0xE0061 ≤ c.toNat && c.toNat ≤ 0xE007A

def isDigitTag (c : Char) : Bool := 0xE0030 ≤ c.toNat && c.toNat ≤ 0xE0039

def isBlackFlag (c : Char) : Bool := c.toNat = 0x1F3F4

/-- What a character becomes in front of a joined emoji. -/
def beforeJoined? (c : Char) : Option (Int × Sequel) :=
  if c.toNat = 0x20E3 then some (0, joinedKey)
  else if c.toNat = 0xE007F then some (0, joinedLetters 0)
  else if c ∈ regionalIndicators then some (1, joinedIndicator)
  else if c ∈ emojiModifiers then some (0, modifier)
  else if c ∈ emojiPresentation then some (0, emoji)
  else none

/-- The columns by which a character changes the width in front of this, and what begins with it
then; none if it is as if it stood alone. -/
def before? (c : Char) : Sequel → Option (Int × Sequel)
  | other | joinedKey => none
  | alef =>
    if c ∈ lams then some (0, other)
    else if columnsAlone c = 0 ∧ c ∉ joiningBarriers then some (0, alef)
    else none
  | ligature part hasJoiner =>
    if c.toNat = joiner then some (0, ligature part true)
    else if c ∈ passedOver then some (0, ligature part hasJoiner)
    else
      (part.before? c hasJoiner).map fun (columns, part?) =>
        (columns, part?.elim other (ligature · true))
  | vowelE =>
    match c.toNat with
    | 0x16D63 | 0x16D69 => some (0, other)
    | 0x16D67 => some (0, vowelAi)
    | 0x16D68 => some (1, vowelE)
    | _ => none
  | vowelAi => if c.toNat = 0x16D63 then some (0, other) else none
  | emoji => if c.toNat = joiner then some (0, joined) else none
  | modifier =>
    if c ∈ emojiModifierBases then some (0, emoji)
    else if c.toNat = joiner then some (0, joined)
    else none
  | indicator => if c ∈ regionalIndicators then some (1, indicators) else none
  | indicators =>
    if c ∈ regionalIndicators then some (1, indicators)
    else if c.toNat = joiner then some (0, joined)
    else none
  | joined => beforeJoined? c
  | joinedIndicator => if c ∈ regionalIndicators then some (-1, joinedPairs) else none
  | joinedPairs =>
    if c ∈ regionalIndicators then some (3, joinedIndicatorAndPairs)
    else if c.toNat = joiner then some (0, joined)
    else none
  | joinedIndicatorAndPairs =>
    if c ∈ regionalIndicators then some (-1, joinedPairs)
    else if c.toNat = joiner then some (0, joined)
    else none
  | joinedLetters count =>
    if isLetterTag c ∧ count < 6 then some (0, joinedLetters (count + 1))
    else if isDigitTag c ∧ count ≤ 4 then some (0, joinedDigits 1)
    else if isBlackFlag c ∧ 3 ≤ count then some (0, emoji)
    else none
  | joinedDigits count =>
    if isDigitTag c ∧ count < 3 then some (0, joinedDigits (count + 1))
    else if isBlackFlag c ∧ count = 3 then some (0, emoji)
    else none

end Sequel

/-- What stands behind a place: perhaps a selector, and what begins behind that. -/
structure Context where
  sequel : Sequel
  selector? : Option Selector
  deriving DecidableEq, Repr

namespace Context

/-- Nothing at all, as at the end of the line. -/
def empty : Context := ⟨.other, none⟩

end Context

/-- The single and double quotation marks that have a form of full width. -/
def isQuotationMark (c : Char) : Bool :=
  c.toNat = 0x2018 || c.toNat = 0x2019 || c.toNat = 0x201C || c.toNat = 0x201D

/-- The last code of the characters that neither depend on what stands behind them nor matter to
what stands before them. -/
def lastPlain : Nat := 0xA0

/-- The columns of a character that no selector follows, and what stands behind the place before
it. -/
def measureBefore (c : Char) (sequel : Sequel) : Int × Context :=
  if c.toNat ≤ lastPlain then (1, Context.empty)
  else
    match Selector.ofChar? c, sequel.before? c with
    | some selector, _ => (0, ⟨sequel.behind selector, some selector⟩)
    | none, some (columns, sequel) => (columns, ⟨sequel, none⟩)
    | none, none => (columnsAlone c, ⟨Sequel.ofChar c, none⟩)

/-- The columns that a character adds, and what stands behind the place before it. -/
def measure (c : Char) (context : Context) : Int × Context :=
  match context.selector? with
  | none => measureBefore c context.sequel
  | some .emoji =>
    if c ∈ emojiSelectorBases then
      (if context.sequel.isJoined then 0 else 2, ⟨.emoji, none⟩)
    else measureBefore c (context.sequel.behind .text)
  | some .text =>
    if c ∈ textSelectorBases then (1, Context.empty)
    else measureBefore c (context.sequel.behind .text)
  | some .fullWidth =>
    if isQuotationMark c then (2, Context.empty)
    else measureBefore c (context.sequel.behind .text)

/-- The columns of a line. -/
def columns (line : List Char) : Nat :=
  (line.foldr
    (fun c (total, context) =>
      let (added, context) := measure c context
      (total + added, context))
    ((0 : Int), Context.empty)).1.toNat

end FilterWatch.Text
