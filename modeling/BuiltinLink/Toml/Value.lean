import BuiltinLink.Numeric.Binary64

/-!
The values of a TOML document. Tables and arrays record how they were written, since that decides
which later lines may add to them.
-/

namespace BuiltinLink.Toml

/-- How a table came to be. -/
inductive TableKind where
  /-- Under a header of its own, or the root. -/
  | headed
  /-- Named only inside the headers of other tables. -/
  | implied
  /-- Named inside a dotted key. -/
  | dotted
  /-- Written between braces. -/
  | inline
deriving DecidableEq, Repr

/-- How an array came to be. -/
inductive ArrayKind where
  /-- Gathered from headers in double brackets. -/
  | headed
  /-- Written between brackets. -/
  | inline
deriving DecidableEq, Repr

/-- A value. Of a date or time only that it is one is kept. -/
inductive Value where
  | string (s : String)
  | integer (n : Int)
  | float (x : Binary64)
  | boolean (b : Bool)
  | datetime
  | array (kind : ArrayKind) (items : List Value)
  | table (kind : TableKind) (entries : List (String × Value))

/-- The entries of a table, in order. -/
abbrev Entries := List (String × Value)

end BuiltinLink.Toml
