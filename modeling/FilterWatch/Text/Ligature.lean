import FilterWatch.Text.CharSet

/-!
Ligatures, drawn in fewer columns than their characters would take one by one. A line is measured
from its end, so what is known of a ligature is its last part, and the character before that part
either belongs to it or does not. A joiner between the characters is needed for some ligatures and
harmless in the others.
-/

namespace FilterWatch.Text

/-- The end of what can be a ligature. -/
inductive LigatureEnd
  /-- The Hebrew letter lamed. -/
  | lamed
  /-- The Buginese letter ya. -/
  | ya
  /-- A Buginese vowel sign joined to the letter ya. -/
  | vowelAndYa
  /-- A Tifinagh consonant. -/
  | consonant
  /-- A Tifinagh consonant behind the consonant joiner. -/
  | joinedConsonant
  /-- One of the Lisu letters for the second half of a tone. -/
  | tone
  /-- The letter i of the Orkhon script. -/
  | orkhonI
  /-- A Khmer letter that can stand below another one. -/
  | subscriptLetter
  deriving DecidableEq, Repr

/-- The consonants that the consonant joiner connects. -/
def tifinaghConsonants : CharSet := ⟨[
  (0x2D31, 0x2D65), (0x2D6F, 0x2D6F)]⟩

/-- The Khmer letters that have a form below another letter. -/
def khmerSubscriptLetters : CharSet := ⟨[
  (0x1780, 0x1782), (0x1784, 0x1787), (0x1789, 0x178C), (0x178E, 0x1793), (0x1795, 0x1798),
  (0x179B, 0x179D), (0x17A0, 0x17A0), (0x17A2, 0x17A2), (0x17A7, 0x17A7), (0x17AB, 0x17AC),
  (0x17AF, 0x17AF)]⟩

/-- Marks that are not shown, and do not separate the characters of a ligature. -/
def passedOver : CharSet := ⟨[
  (0x34F, 0x34F), (0x17B4, 0x17B5), (0x180B, 0x180D), (0x180F, 0x180F), (0xFE00, 0xFE0F),
  (0xE0100, 0xE01EF)]⟩

namespace LigatureEnd

/-- What a character can be the end of, when it stands alone. -/
def ofChar? (c : Char) : Option LigatureEnd :=
  match c.toNat with
  | 0x5DC => some .lamed
  | 0x1A10 => some .ya
  | 0xA4FC | 0xA4FD => some .tone
  | 0x10C03 => some .orkhonI
  | _ =>
    if c ∈ tifinaghConsonants then some .consonant
    else if c ∈ khmerSubscriptLetters then some .subscriptLetter
    else none

/-- Whether the character belongs to the ligature with this end, which is joined to it or not: the
columns by which it changes the width, and the end that is known then, if there can be more. -/
def before? (c : Char) (joined : Bool) : LigatureEnd → Option (Int × Option LigatureEnd)
  | lamed => if joined ∧ c.toNat = 0x5D0 then some (0, none) else none
  | ya => if joined ∧ c.toNat = 0x1A17 then some (0, some vowelAndYa) else none
  | vowelAndYa => if c.toNat = 0x1A15 then some (0, none) else none
  | consonant =>
    if c.toNat = 0x2D7F then some (1, some joinedConsonant)
    else if joined ∧ c ∈ tifinaghConsonants then some (0, none)
    else none
  | joinedConsonant => if c ∈ tifinaghConsonants then some (-1, none) else none
  | tone => if 0xA4F8 ≤ c.toNat ∧ c.toNat ≤ 0xA4FB then some (0, none) else none
  | orkhonI => if joined ∧ c.toNat = 0x10C32 then some (0, none) else none
  | subscriptLetter => if c.toNat = 0x17D2 then some (-1, none) else none

end LigatureEnd

/-! ### Lam and alef -/

/-- The forms of alef that join the letter lam before them. -/
def alefs : CharSet := ⟨[
  (0x622, 0x623), (0x625, 0x625), (0x627, 0x627), (0x671, 0x673), (0x675, 0x675), (0x773, 0x774),
  (0x870, 0x882)]⟩

/-- The forms of lam. -/
def lams : CharSet := ⟨[
  (0x644, 0x644), (0x6B5, 0x6B8), (0x76A, 0x76A), (0x8A6, 0x8A6), (0x8C7, 0x8C7)]⟩

/-- Characters without a column that nevertheless separate a lam from an alef. -/
def joiningBarriers : CharSet := ⟨[
  (0x605, 0x605), (0x890, 0x891), (0x8E2, 0x8E2), (0x9BE, 0x9BE), (0x9D7, 0x9D7), (0xB3E, 0xB3E),
  (0xB57, 0xB57), (0xBBE, 0xBBE), (0xBD7, 0xBD7), (0xCC0, 0xCC0), (0xCC2, 0xCC2), (0xCC7, 0xCC8),
  (0xCCA, 0xCCB), (0xCD5, 0xCD6), (0xD3E, 0xD3E), (0xD4E, 0xD4E), (0xD57, 0xD57), (0xDCF, 0xDCF),
  (0xDDF, 0xDDF), (0x1160, 0x11FF), (0x1715, 0x1715), (0x1734, 0x1734), (0x180E, 0x180E),
  (0x1B35, 0x1B35), (0x1B3B, 0x1B3B), (0x1B3D, 0x1B3D), (0x1B43, 0x1B44), (0x1BAA, 0x1BAA),
  (0x1BF2, 0x1BF3), (0x200C, 0x200D), (0x2065, 0x2069), (0x302E, 0x302F), (0x3164, 0x3164),
  (0xA8FA, 0xA8FA), (0xA953, 0xA953), (0xA9C0, 0xA9C0), (0xD7B0, 0xD7C6), (0xD7CB, 0xD7FB),
  (0xFFA0, 0xFFA0), (0xFFF0, 0xFFF8), (0x111C0, 0x111C0), (0x111C2, 0x111C3), (0x11235, 0x11235),
  (0x1133E, 0x1133E), (0x1134D, 0x1134D), (0x11357, 0x11357), (0x113B8, 0x113B8),
  (0x113C2, 0x113C2), (0x113C5, 0x113C5), (0x113C7, 0x113C9), (0x113CF, 0x113CF),
  (0x113D1, 0x113D1), (0x114B0, 0x114B0), (0x114BD, 0x114BD), (0x115AF, 0x115AF),
  (0x116B6, 0x116B6), (0x11930, 0x11930), (0x1193D, 0x1193D), (0x1193F, 0x1193F),
  (0x11941, 0x11941), (0x11A84, 0x11A89), (0x11D46, 0x11D46), (0x11F02, 0x11F02),
  (0x11F41, 0x11F41), (0x16FF0, 0x16FF1), (0x1D165, 0x1D166), (0x1D16D, 0x1D172),
  (0x1D250, 0x1D252), (0x1D25C, 0x1D25F), (0xE0000, 0xE0000), (0xE0002, 0xE001F),
  (0xE0080, 0xE00FF), (0xE01F0, 0xE0FFF)]⟩

end FilterWatch.Text
