import BuiltinLink.Numeric.Shortest
import BuiltinLink.Text.Quoted
import BuiltinLink.Toml.Value

/-!
Why a TOML document has not the shape of link settings, and how that is said.
-/

namespace BuiltinLink

open Toml

/-- What a value is seen to be where something else is expected. Dates and times count as maps. -/
inductive Found where
  | integer (n : Int)
  | float (x : Binary64)
  | boolean (b : Bool)
  | string (s : String)
  | sequence
  | map
deriving DecidableEq, Repr

namespace Found

/-- What a value is seen to be. -/
def ofValue : Value → Found
  | .string s => string s
  | .integer n => integer n
  | .float x => float x
  | .boolean b => boolean b
  | .array _ _ => sequence
  | .datetime | .table _ _ => map

/-- The wording; scalars are shown. -/
def text : Found → String
  | integer n => "integer `" ++ toString n ++ "`"
  | float x => "floating point `" ++ x.text ++ "`"
  | boolean b => "boolean `" ++ (if b then "true" else "false") ++ "`"
  | string s => "string " ++ Text.quoted s
  | sequence => "sequence"
  | map => "map"

end Found

/-- What is expected of a value. -/
inductive Expected where
  | index
  | sequence
  | boolean
  | path
  | target
  | link
deriving DecidableEq, Repr

def Expected.text : Expected → String
  | index => "u32"
  | sequence => "a sequence"
  | boolean => "a boolean"
  | path => "path string"
  | target => "struct RawTarget"
  | link => "struct RawLink"

/-- What may be wrong with the value below the name of a variant, where an empty one is expected. -/
inductive Payload where
  /-- A table or array that is not empty. -/
  | entries
  /-- An array of tables. -/
  | tables
  | integer
  | float
  | boolean
  | string
  | datetime
deriving DecidableEq, Repr

def Payload.message : Payload → String
  | entries => "expected empty table"
  | tables => "expected empty array"
  | integer => "expected table, found integer"
  | float => "expected table, found float"
  | boolean => "expected table, found boolean"
  | string => "expected table, found string"
  | datetime => "expected table, found datetime"

/-- What is wrong at one place of a document. -/
inductive ShapeFault where
  /-- A key that no field has. -/
  | unknownField (key : String) (fields : List String)
  /-- A table that has been read and lacks a field. -/
  | missingField (key : String)
  | wrongType (found : Found) (expected : Expected)
  /-- An integer that is no checkpoint index. -/
  | outOfRange (n : Int)
  /-- An array that stands for a target and ends early. -/
  | tooShort (length : Nat)
  /-- A name that no member of a closed set has. -/
  | unknownVariant (name : String) (names : List String)
  /-- A value that could not name a variant. -/
  | notVariant
  /-- An empty table instead of a variant. -/
  | noVariant
  /-- A table of several entries instead of a variant. -/
  | manyVariants
  | payload (fault : Payload)
deriving DecidableEq, Repr

namespace ShapeFault

/-- A name in backquotes. -/
def tick (s : String) : String :=
  "`" ++ s ++ "`"

/-- What is expected: one of some names. -/
def alternatives : List String → String
  | [a] => tick a
  | [a, b] => tick a ++ " or " ++ tick b
  | l => "one of " ++ ", ".intercalate (l.map tick)

def message : ShapeFault → String
  | unknownField key fields => "unknown field " ++ tick key ++ ", expected " ++ alternatives fields
  | missingField key => "missing field " ++ tick key
  | wrongType found expected => "invalid type: " ++ found.text ++ ", expected " ++ expected.text
  | outOfRange n =>
    "invalid value: " ++ (Found.integer n).text ++ ", expected " ++ Expected.index.text
  | tooShort length =>
    "invalid length " ++ toString length ++ ", expected " ++ Expected.target.text ++
      " with 3 elements"
  | unknownVariant name names =>
    "unknown variant " ++ tick name ++ ", expected " ++ alternatives names
  | notVariant => "wanted string or table"
  | noVariant => "wanted exactly 1 element, found 0 elements"
  | manyVariants => "wanted exactly 1 element, more than 1 element"
  | payload fault => fault.message

end ShapeFault

end BuiltinLink
