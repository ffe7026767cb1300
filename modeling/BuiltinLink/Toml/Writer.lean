import BuiltinLink.Toml.Value

/-!
TOML documents as they are written: tables under headers of their own with one entry a line. A
string takes the plainest form that can hold it, so escapes are rare.
-/

namespace BuiltinLink.Toml

/-- The forms of a string. -/
inductive Quoting where
  | basic
  | literal
  | multilineBasic
  | multilineLiteral
deriving DecidableEq, Repr

/-- Whether a character can only be written as an escape: the control characters other than the tab
and the line feed. -/
def needsEscape (c : Char) : Bool :=
  (c.toNat < 0x20 && c != '\t' && c != '\n') || c.toNat == 0x7F

/-- The length of the longest run of a character; `current` of them stand before the text. -/
def longestRun (q : Char) (current : Nat) : List Char → Nat
  | [] => current
  | c :: r => if c = q then longestRun q (current + 1) r else max current (longestRun q 0 r)

/-- The form that a text is written in: the first of a basic string, a literal string and the two
over several lines that takes the text without an escape of a backslash, of a quote or of a control
character other than the tab, and else a basic string. -/
def quotingFor (s : List Char) : Quoting :=
  let escapes := s.any needsEscape
  let backslash := s.contains '\\'
  let newline := s.contains '\n'
  let single := longestRun '\'' 0 s
  let double := longestRun '"' 0 s
  if !escapes && !backslash && !newline && double == 0 then .basic
  else if !escapes && !newline && single == 0 then .literal
  else if !escapes && !backslash && double ≤ 2 then .multilineBasic
  else if !escapes && single ≤ 2 then .multilineLiteral
  else if newline then .multilineBasic
  else .basic

/-- A hexadecimal digit, in upper case. -/
def upperHex (n : Nat) : Char :=
  (Nat.digitChar n).toUpper

/-- A character as it stands in a basic string, quotes and line feeds aside. -/
def escaped (c : Char) : List Char :=
  match c with
  | '\x08' => ['\\', 'b']
  | '\t' => ['\\', 't']
  | '\x0c' => ['\\', 'f']
  | '\r' => ['\\', 'r']
  | '\\' => ['\\', '\\']
  | c =>
    if needsEscape c then
      ['\\', 'u', '0', '0', upperHex (c.toNat / 16), upperHex (c.toNat % 16)]
    else [c]

/-- The text of a basic string on one line. -/
def basicText (s : List Char) : List Char :=
  s.flatMap fun c =>
    match c with
    | '"' => ['\\', '"']
    | '\n' => ['\\', 'n']
    | c => escaped c

/-- The text of a basic string over several lines. Of adjoining quotes each third one is escaped;
`run` counts those since the last escape. -/
def multilineText (run : Nat) : List Char → List Char
  | [] => []
  | '"' :: r =>
    if run = 2 then '\\' :: '"' :: multilineText 0 r else '"' :: multilineText (run + 1) r
  | '\n' :: r => '\n' :: multilineText 0 r
  | c :: r => escaped c ++ multilineText 0 r

/-- The line end behind the opening quotes of a text that has line ends. -/
def opening (s : List Char) : List Char :=
  if s.contains '\n' then ['\n'] else []

/-- A string in a given form. -/
def writeStringAs (s : List Char) : Quoting → List Char
  | .basic => '"' :: (basicText s ++ ['"'])
  | .literal => '\'' :: (s ++ ['\''])
  | .multilineBasic =>
    ['"', '"', '"'] ++ opening s ++ multilineText 0 s ++ ['"', '"', '"']
  | .multilineLiteral =>
    ['\'', '\'', '\''] ++ opening s ++ s ++ ['\'', '\'', '\'']

def writeString (s : List Char) : List Char :=
  writeStringAs s (quotingFor s)

/-- The values that are written. -/
inductive Plain where
  | string (s : String)
  | boolean (b : Bool)
  | naturals (l : List Nat)
deriving DecidableEq, Repr

namespace Plain

/-- The value that is read back. -/
def toValue : Plain → Value
  | string s => .string s
  | boolean b => .boolean b
  | naturals l => .array .inline (l.map fun n : Nat => .integer n)

/-- A value as it is written. -/
def write : Plain → List Char
  | string s => writeString s.toList
  | boolean b => if b then ['t', 'r', 'u', 'e'] else ['f', 'a', 'l', 's', 'e']
  | naturals l => '[' :: ([',', ' '].intercalate (l.map (Nat.toDigits 10)) ++ [']'])

end Plain

/-- A table under a header. Names and keys are made of letters, digits and hyphens. -/
structure PlainTable where
  name : String
  entries : List (String × Plain)
deriving DecidableEq, Repr

namespace PlainTable

/-- A table with its header. -/
def write (t : PlainTable) : List Char :=
  '[' :: (t.name.toList ++ [']', '\n']) ++
    t.entries.flatMap fun e => e.1.toList ++ [' ', '=', ' '] ++ e.2.write ++ ['\n']

/-- The entry of the root that is read back. -/
def toEntry (t : PlainTable) : String × Value :=
  (t.name, .table .headed (t.entries.map fun e => (e.1, e.2.toValue)))

end PlainTable

/-- Tables with an empty line between them. -/
def writeTables (l : List PlainTable) : List Char :=
  ['\n'].intercalate (l.map PlainTable.write)

end BuiltinLink.Toml
