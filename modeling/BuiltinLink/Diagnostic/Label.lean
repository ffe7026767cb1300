import BuiltinLink.Text.Blank
import BuiltinLink.Text.Lines
import BuiltinLink.Text.Utf8
import BuiltinLink.Text.Width

/-!
The place of a label in the text that it labels. A label runs from the first column on; its length
is counted in bytes of the text but measured out in characters, so it may end in a later line than
the text asks for, or behind the end of the text.
-/

namespace BuiltinLink

open Text

/-- What a column shows, and how many columns of the terminal that fills. -/
structure Cell where
  shown : List Char
  width : Nat
deriving DecidableEq, Repr

namespace Cell

/-- Tabs reach to the next multiple of this number. -/
def tabStop : Nat := 4

/-- The cell of a character. A tab is shown as blanks, any other blank character as one. -/
def ofChar (column : Nat) (c : Char) : Cell :=
  if c = '\t' then
    let n := tabStop - column % tabStop
    ⟨List.replicate n ' ', n⟩
  else if isBlank c then ⟨[' '], 1⟩
  else ⟨[c], Text.width c⟩

/-- The cells of a line. Blanks at its end are not shown. -/
def ofLine (l : List Char) : List Cell :=
  (trimEnd l).mapIdx ofChar

/-- The width of a column; behind the end of a line columns are one wide. -/
def widthAt (cells : List Cell) (column : Nat) : Nat :=
  match cells[column]? with
  | some c => c.width
  | none => 1

end Cell

/-- A line of a text with the place at which it begins. -/
structure PlacedLine where
  start : Nat
  text : List Char
deriving DecidableEq, Repr

def PlacedLine.place (start : Nat) : List (List Char) → List PlacedLine
  | [] => []
  | l :: ls => ⟨start, l⟩ :: place (start + l.length) ls

/-- A label and the lines that it touches. -/
structure Label where
  /-- The number of labelled characters. -/
  extent : Nat
  first : PlacedLine
  /-- The lines between the first and the last. -/
  middle : List PlacedLine
  /-- The last line, if it is not the first. -/
  last : Option PlacedLine
deriving DecidableEq, Repr

namespace Label

/-- The lines up to the one that holds a place. The end of the text counts to its last line. -/
def linesTo (s : List Char) (place : Nat) : List PlacedLine :=
  if s.length < place then []
  else (PlacedLine.place 0 (lines s)).takeWhile fun l => l.start ≤ place

/-- The label on a text, unless it ends more than one character behind the text or the text is
empty. -/
def on? (s : List Char) : Option Label :=
  let extent := Text.byteLength s
  match linesTo s (extent - 1) with
  | [] => none
  | [first] => some ⟨extent, first, [], none⟩
  | first :: rest => some ⟨extent, first, rest.dropLast, rest.getLast?⟩

/-- The number of the last line that the label touches, counted from zero. -/
def lastIndex (l : Label) : Nat :=
  l.middle.length + l.last.toList.length

/-- Whether the label spans several lines. -/
def isMulti (l : Label) : Bool :=
  l.last.isSome

/-- Whether the label ends within a line. -/
def endsIn (l : Label) (p : PlacedLine) : Bool :=
  l.extent - 1 < p.start + p.text.length

/-- The widths of the columns from the first up to two behind a number of columns. -/
def widths (cells : List Cell) (columns : Nat) : List Nat :=
  (List.range (columns + 2)).map (Cell.widthAt cells)

end Label

end BuiltinLink
