import BuiltinLink.Diagnostic.Basic
import BuiltinLink.Diagnostic.Label
import BuiltinLink.Diagnostic.Styled
import BuiltinLink.Text.Utf8

/-!
Diagnostics as text: a heading, the subject with a label drawn below it or along its lines, help and
notes. Where no label can be placed, the heading is all.
-/

namespace BuiltinLink

/-- The word for a severity. -/
def Severity.heading : Severity → List Char
  | error => "Error:".toList
  | warning => "Warning:".toList
  | note => "Advice:".toList

/-- The colour of the word for a severity. -/
def Severity.headingColour : Severity → Colour
  | error => .red
  | warning => .yellow
  | note => .palette 147

/-- The colour of a label. -/
def Severity.labelColour : Severity → Colour
  | error => .red
  | warning => .yellow
  | note => .cyan

namespace Report

/-- The colour of the frame and of line numbers. -/
def frameColour : Colour := .palette 246

/-- The colour of the frame beside lines without a number. -/
def marginColour : Colour := .palette 240

/-- The colour of the words before help and notes. -/
def wordColour : Colour := .palette 115

/-- The colour of text outside the label. -/
def textColour : Colour := .palette 249

/-- What the drawing of a label depends on. -/
structure Drawing where
  label : Label
  colour : Colour
  /-- The text at the end of the label. -/
  message : List Char
deriving DecidableEq, Repr

namespace Drawing

/-- The columns that line numbers fill. -/
def digits (d : Drawing) : Nat :=
  (Nat.toDigits 10 (d.label.lastIndex + 1)).length

/-- The margin of a line with a number; lines are counted from zero. -/
def numbered (d : Drawing) (index : Nat) : Styled :=
  let number := Nat.toDigits 10 (index + 1)
  [.blanks 1,
    .inColour frameColour (List.replicate (d.digits - number.length) ' ' ++ number ++ [' ', '│']),
    .blanks 1]

/-- The margin of a line without a number. -/
def margin (d : Drawing) (bar : Char) : Styled :=
  [.blanks 1, .inColour marginColour (List.replicate (d.digits + 1) ' ' ++ [bar]), .blanks 1]

/-- The lines above the subject. -/
def top (d : Drawing) : List Styled :=
  [.blanks (d.digits + 2) :: Styled.each frameColour ['╭', '─', '['] ++
      .plain "<unknown>:1:1".toList :: Styled.each frameColour [']'],
    .blanks (d.digits + 2) :: Styled.each frameColour ['│']]

/-- The line below all. -/
def bottom (d : Drawing) : Styled :=
  [.inColour frameColour (List.replicate (d.digits + 2) '─' ++ ['╯'])]

/-- A line of the subject; the label colours what it covers. -/
def text (d : Drawing) (p : PlacedLine) : Styled :=
  ((Cell.ofLine p.text).mapIdx fun column c =>
    let covered := p.start + column < d.label.extent
    Styled.each (if covered then d.colour else textColour) c.shown).flatten

/-- A part of the drawing of a label. -/
def draw (d : Drawing) (s : List Char) : Styled :=
  Styled.each d.colour s

/-- The width of columns together. -/
def columns (widths : List Nat) : Nat :=
  widths.foldl (· + ·) 0

/-- A line drawn over columns of given widths. -/
def rule (widths : List Nat) : List Char :=
  List.replicate (columns widths) '─'

/-- A column in which a line bends. -/
def bend (c : Char) (width : Nat) : List Char :=
  (c :: List.replicate (width - 1) '─').take width

/-- The message, and a blank before it. -/
def messageSpan (d : Drawing) : Span :=
  .plain (' ' :: d.message)

/-- A label within one line: the columns are underlined, and from the middle one a line leads to the
message. A label that is longer than its line is not drawn, and neither is the line. -/
def single (d : Drawing) : List Styled :=
  let p := d.label.first
  let extent := d.label.extent
  if extent ≤ p.text.length then
    let widths := Label.widths (Cell.ofLine p.text) extent
    let left := widths.take (extent / 2)
    let right := widths.drop (extent / 2 + 1)
    let middle := widths.getD (extent / 2) 1
    let covered := extent - extent / 2 - 1
    [d.numbered 0 ++ d.text p,
      d.margin '│' ++
        d.draw (rule left ++ bend '┬' middle ++ rule (right.take covered)) ++
        [.blanks (columns (right.drop covered))],
      d.margin '│' ++ .blanks (columns left) :: d.draw (bend '╰' middle ++ rule right) ++
        [d.messageSpan]]
  else [d.margin '│']

/-- A label along several lines. Lines between the first and the last are left out, and so is the
last if the label ends behind it. -/
def multi (d : Drawing) (last : PlacedLine) : List Styled :=
  let widths := Label.widths (Cell.ofLine last.text) last.text.length
  let gap := [d.margin '┆' ++ d.draw ['┆'] ++ [.blanks 3]]
  [d.numbered 0 ++ d.draw "╭─▶ ".toList ++ d.text d.label.first] ++
    (if d.label.middle ≠ [] ∨ !d.label.endsIn last then gap else []) ++
    if d.label.endsIn last then
      [d.numbered d.label.lastIndex ++ d.draw "├─▶ ".toList ++ d.text last,
        d.margin '│' ++ d.draw ['│'] ++ [.blanks 3, .blanks (columns widths)],
        d.margin '│' ++ d.draw ("╰───".toList ++ rule widths) ++ [d.messageSpan]]
    else []

/-- The subject with its label. -/
def body (d : Drawing) : List Styled :=
  match d.label.last with
  | none => d.single
  | some last => d.multi last

/-- Help or notes below the subject. -/
def remarks (d : Drawing) (word : String) (texts : List String) : List Styled :=
  let indent : Styled := d.margin '│' ++ if d.label.isMulti then [.blanks 4] else []
  if texts = [] then []
  else
    [indent,
      indent ++ [.inColour wordColour word.toList,
        .plain (": " ++ "\n".intercalate texts).toList]]

end Drawing

end Report

namespace Diagnostic

/-- The text that a label points at: the subject, or the message of a diagnostic without one. -/
def labelled (d : Diagnostic) : String :=
  d.subject.getD d.message

/-- The text at the end of the label. -/
def labelText (d : Diagnostic) : String :=
  match d.code with
  | some c => c.description
  | none => "here"

/-- The first line. -/
def headingLine (d : Diagnostic) : Styled :=
  [.inColour d.severity.headingColour d.severity.heading,
    .plain (match d.code with
      | some c => " [" ++ c.text ++ "] " ++ d.message
      | none => " " ++ d.message).toList]

/-- The lines of the text. -/
def report (d : Diagnostic) : List Styled :=
  d.headingLine ::
    match Label.on? d.labelled.toList with
    | none => []
    | some label =>
      let w : Report.Drawing := ⟨label, d.severity.labelColour, d.labelText.toList⟩
      w.top ++ w.body ++ w.remarks "Help" d.suggestions ++ w.remarks "Note" d.notes ++ [w.bottom]

/-- The text of a diagnostic. -/
def render (coloured : Bool) (d : Diagnostic) : String :=
  String.ofList (d.report.flatMap (Styled.write coloured))

/-- The texts of diagnostics one behind the other. -/
def renderAll (coloured : Bool) (l : List Diagnostic) : String :=
  String.join (l.map (render coloured))

/-- What comes of writing a diagnostic to a place that may lack room. -/
structure Delivery where
  /-- The bytes that found room. -/
  taken : Text.Bytes
  /-- Whether those are all. -/
  complete : Bool
deriving DecidableEq, Repr

/-- Writes a diagnostic to a place with room for some bytes. -/
def deliver (coloured : Bool) (room : Nat) (d : Diagnostic) : Delivery :=
  let bytes := Text.encode (d.render coloured).toList
  ⟨bytes.take room, bytes.length ≤ room⟩

end Diagnostic

end BuiltinLink
