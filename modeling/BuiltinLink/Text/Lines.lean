/-!
Lines of a text. A line keeps the characters that end it.
-/

namespace BuiltinLink.Text

/-- The characters that end a line: line feed, vertical tab, form feed, carriage return, next line,
line separator and paragraph separator. -/
def endsLine (c : Char) : Bool :=
  (10 ≤ c.toNat && c.toNat ≤ 13) || c.toNat == 0x85 || c.toNat == 0x2028 || c.toNat == 0x2029

/-- Puts characters in front of the first line. -/
def prepend (s : List Char) : List (List Char) → List (List Char)
  | [] => [s]
  | l :: ls => (s ++ l) :: ls

/-- The lines of a text. A carriage return and a line feed behind it end one line together. -/
def lines : List Char → List (List Char)
  | [] => []
  | '\r' :: '\n' :: r => ['\r', '\n'] :: lines r
  | c :: r => if endsLine c then [c] :: lines r else prepend [c] (lines r)

end BuiltinLink.Text
