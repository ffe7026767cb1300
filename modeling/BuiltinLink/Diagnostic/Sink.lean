import BuiltinLink.Diagnostic.Basic

/-!
A sink gathers the diagnostics of one module in the order in which they are reported.
-/

namespace BuiltinLink

/-- The diagnostics reported so far. -/
structure Sink where
  diagnostics : List Diagnostic := []
deriving DecidableEq, Repr

namespace Sink

def report (s : Sink) (d : Diagnostic) : Sink :=
  ⟨s.diagnostics ++ [d]⟩

@[simp] theorem diagnostics_report (s : Sink) (d : Diagnostic) :
    (s.report d).diagnostics = s.diagnostics ++ [d] := rfl

def length (s : Sink) : Nat :=
  s.diagnostics.length

def isEmpty (s : Sink) : Bool :=
  s.diagnostics.isEmpty

def errorCount (s : Sink) : Nat :=
  s.diagnostics.countP Diagnostic.isError

def hasErrors (s : Sink) : Bool :=
  0 < s.errorCount

end Sink

end BuiltinLink
