/-!
Blank characters, and the folding of a name: blanks stripped from both ends, Latin capitals lowered.
-/

namespace BuiltinLink.Text

/-- The characters with the property White_Space. -/
def isBlank (c : Char) : Bool :=
  let n := c.toNat
  (9 ≤ n && n ≤ 13) || n == 0x20 || n == 0x85 || n == 0xA0 || n == 0x1680 ||
    (0x2000 ≤ n && n ≤ 0x200A) || n == 0x2028 || n == 0x2029 || n == 0x202F || n == 0x205F ||
    n == 0x3000

/-- Drops blanks from the end. -/
def trimEnd (s : List Char) : List Char :=
  (s.reverse.dropWhile isBlank).reverse

/-- Drops blanks from both ends. -/
def trim (s : List Char) : List Char :=
  trimEnd (s.dropWhile isBlank)

/-- Drops blanks from both ends and lowers the letters `A` to `Z`; no other letter changes. -/
def fold (s : String) : String :=
  String.ofList ((trim s.toList).map Char.toLower)

end BuiltinLink.Text
