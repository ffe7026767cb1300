/-!
Text with colours, for a terminal or without one.
-/

namespace BuiltinLink

/-- Colours of a terminal. -/
inductive Colour where
  | red
  | yellow
  | cyan
  /-- A colour of the palette of 256. -/
  | palette (n : Nat)
deriving DecidableEq, Repr

/-- The parameters that select a colour. -/
def Colour.parameters : Colour → String
  | red => "31"
  | yellow => "33"
  | cyan => "36"
  | palette n => "38;5;" ++ toString n

/-- A stretch of text in one colour, or in that of its surroundings. -/
structure Span where
  colour : Option Colour
  text : List Char
deriving DecidableEq, Repr

/-- A line of text with colours. -/
abbrev Styled := List Span

namespace Span

/-- Text in the colour of its surroundings. -/
def plain (s : List Char) : Span :=
  ⟨none, s⟩

def inColour (c : Colour) (s : List Char) : Span :=
  ⟨some c, s⟩

def blanks (n : Nat) : Span :=
  plain (List.replicate n ' ')

/-- The text as it is written: colours are selected before it and reset behind it. -/
def write (coloured : Bool) (s : Span) : List Char :=
  match s.colour with
  | some c =>
    if coloured then
      '\x1b' :: '[' :: (c.parameters.toList ++ 'm' :: (s.text ++ ['\x1b', '[', '0', 'm']))
    else s.text
  | none => s.text

end Span

namespace Styled

/-- Each character in the colour, one by one. -/
def each (c : Colour) (s : List Char) : Styled :=
  s.map fun a => .inColour c [a]

/-- A line as it is written, with a line feed at its end. -/
def write (coloured : Bool) (s : Styled) : List Char :=
  s.flatMap (Span.write coloured) ++ ['\n']

end Styled

end BuiltinLink
