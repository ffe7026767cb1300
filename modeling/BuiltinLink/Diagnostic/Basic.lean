import BuiltinLink.Diagnostic.Code

/-!
Diagnostics: what is reported about one problem, and the steps by which a diagnostic is completed.
-/

namespace BuiltinLink

/-- How grave a problem is. -/
inductive Severity where
  | error
  | warning
  | note
deriving DecidableEq, Repr

/-- A report of one problem. -/
structure Diagnostic where
  severity : Severity
  code : Option Code := none
  message : String
  /-- The library or library symbol that the diagnostic is about. -/
  subject : Option String := none
  notes : List String := []
  suggestions : List String := []
deriving DecidableEq, Repr

namespace Diagnostic

def error (message : String) : Diagnostic :=
  { severity := .error, message }

def warning (message : String) : Diagnostic :=
  { severity := .warning, message }

/-- Attaches a code; its help, if it has one, becomes a further suggestion. -/
def withCode (d : Diagnostic) (c : Code) : Diagnostic :=
  { d with code := some c, suggestions := d.suggestions ++ c.help.toList }

def withSubject (d : Diagnostic) (s : String) : Diagnostic :=
  { d with subject := some s }

def withNote (d : Diagnostic) (s : String) : Diagnostic :=
  { d with notes := d.notes ++ [s] }

def withSuggestion (d : Diagnostic) (s : String) : Diagnostic :=
  { d with suggestions := d.suggestions ++ [s] }

def isError (d : Diagnostic) : Bool :=
  d.severity = .error

/-- A step that completes a diagnostic. -/
inductive Step where
  | code (c : Code)
  | subject (s : String)
  | note (s : String)
  | suggestion (s : String)
deriving DecidableEq, Repr

def step (d : Diagnostic) : Step → Diagnostic
  | .code c => d.withCode c
  | .subject s => d.withSubject s
  | .note s => d.withNote s
  | .suggestion s => d.withSuggestion s

def steps (d : Diagnostic) (l : List Step) : Diagnostic :=
  l.foldl step d

end Diagnostic

end BuiltinLink
