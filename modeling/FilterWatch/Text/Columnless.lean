import FilterWatch.Text.Extending
import FilterWatch.Text.Ignorable

/-!
The characters that take no column of a terminal, besides those that a ligature or a joined emoji
swallows.
-/

namespace FilterWatch.Text

/-- The Hangul letters that complete the syllable begun by the letter before them. -/
def hangulVowelsAndFinals : CharSet := ⟨[
  (0x1160, 0x11FF), (0xD7B0, 0xD7C6), (0xD7CB, 0xD7FB)]⟩

/-- Signs drawn together with the characters after them. -/
def prepended : CharSet := ⟨[
  (0x605, 0x605), (0x70F, 0x70F), (0x890, 0x891), (0x8E2, 0x8E2), (0xD4E, 0xD4E),
  (0x111C2, 0x111C3), (0x113D1, 0x113D1), (0x1193F, 0x1193F), (0x11941, 0x11941),
  (0x11A84, 0x11A89), (0x11D46, 0x11D46), (0x11F02, 0x11F02)]⟩

/-- A sign between two lines, which stands over the place of the missing words. -/
def caret : CharSet := ⟨[
  (0xA8FA, 0xA8FA)]⟩

/-- Characters without a column. -/
def columnless : CharSet :=
  extending ∪ ignorable ∪ hangulVowelsAndFinals ∪ prepended ∪ caret

end FilterWatch.Text
