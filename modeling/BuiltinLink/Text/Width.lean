import BuiltinLink.Text.EastAsianWide
import BuiltinLink.Text.GraphemeExtend
import BuiltinLink.Text.Unprintable

/-!
The number of terminal columns that a character fills.
-/

namespace BuiltinLink.Text

/-- Characters that add no column although they neither attach nor are ignorable: medial vowels and
final consonants of Hangul syllables, marks written over or under what follows them, and the caret
of Devanagari. -/
def otherZeroWidth : Ranges := [
  (0x605, 0x605), (0x70F, 0x70F), (0x890, 0x891), (0x8E2, 0x8E2), (0x1160, 0x11FF),
  (0xA8FA, 0xA8FA), (0xD7B0, 0xD7C6), (0xD7CB, 0xD7FB)]

/-- The columns a character fills. A control character is shown in one column; the filler for an
initial Hangul consonant takes the two columns of the consonant. -/
def width (c : Char) : Nat :=
  if c.toNat < 0x20 || (0x7F ≤ c.toNat && c.toNat < 0xA0) then 1
  else if c.toNat == 0x115F then 2
  else if defaultIgnorable.contains c then 0
  else if graphemeExtend.contains c || otherZeroWidth.contains c then 0
  else if eastAsianWide.contains c then 2
  else 1

end BuiltinLink.Text
