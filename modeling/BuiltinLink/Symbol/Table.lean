import BuiltinLink.Link.BindError
import BuiltinLink.Symbol.Interner
import BuiltinLink.Types.Source

/-!
The table of function symbols. Overloads share a name and are all kept; an index by name finds them
in the order in which they were added.
-/

namespace BuiltinLink

/-- The place of a symbol in its table. -/
structure SymbolId where
  index : UInt32
deriving DecidableEq, Repr

/-- Where a function is defined. -/
inductive Origin where
  /-- In the source of the program. -/
  | source
  /-- In a foreign function, told from others by a number. -/
  | foreign (function : Nat)
deriving DecidableEq, Repr

/-- The symbol of a function. -/
structure FunctionSymbol where
  /-- The number of the name. -/
  name : Nat
  type : Signature
  origin : Origin
deriving DecidableEq, Repr

/-- The foreign function that a symbol stands for. -/
def FunctionSymbol.foreign? (s : FunctionSymbol) : Option Nat :=
  match s.origin with
  | .source => none
  | .foreign f => some f

/-- A place beyond the end of a table. -/
structure OutOfBounds where
  length : Nat
  index : Nat
deriving DecidableEq, Repr

def OutOfBounds.message (e : OutOfBounds) : String :=
  "index out of bounds: the len is " ++ toString e.length ++ " but the index is " ++
    toString e.index

/-- The function symbols of one module. -/
structure SymbolTable where
  interner : Interner := {}
  symbols : List FunctionSymbol := []
  /-- For the number of each name the symbols of that name. -/
  overloads : List (List SymbolId) := []
  /-- The symbols of foreign functions that were bound. -/
  intrinsics : List (Nat × SymbolId) := []
  /-- Why other foreign functions were not bound. -/
  rejections : List (Nat × BindError) := []
deriving Repr

namespace SymbolTable

/-- Enters a symbol under the number of its name. -/
def enter (buckets : List (List SymbolId)) (n : Nat) (id : SymbolId) : List (List SymbolId) :=
  if n < buckets.length then buckets.modify n (· ++ [id]) else buckets ++ [[id]]

def add (t : SymbolTable) (name : String) (type : Signature) (origin : Origin) :
    SymbolTable × SymbolId :=
  let (interner, n) := t.interner.intern name
  let id : SymbolId := ⟨UInt32.ofNat t.symbols.length⟩
  ({ t with
      interner
      symbols := t.symbols ++ [⟨n, type, origin⟩]
      overloads := enter t.overloads n id }, id)

def get (t : SymbolTable) (id : SymbolId) : Except OutOfBounds FunctionSymbol :=
  match t.symbols[id.index.toNat]? with
  | some s => .ok s
  | none => .error ⟨t.symbols.length, id.index.toNat⟩

def name (t : SymbolTable) (id : SymbolId) : Except OutOfBounds String :=
  (t.get id).map fun s => (t.interner.name? s.name).getD ""

/-- The symbols with a name, in the order of their places. -/
def lookup (t : SymbolTable) (name : String) : List SymbolId :=
  match t.interner.find? name with
  | some n => t.overloads.getD n []
  | none => []

/-- The symbol of a foreign function that was bound. -/
def intrinsic? (t : SymbolTable) (function : Nat) : Option SymbolId :=
  t.intrinsics.lookup function

/-- Why a foreign function was not bound. -/
def rejection? (t : SymbolTable) (function : Nat) : Option BindError :=
  t.rejections.lookup function

def length (t : SymbolTable) : Nat :=
  t.symbols.length

def isEmpty (t : SymbolTable) : Bool :=
  t.symbols.isEmpty

def toList (t : SymbolTable) : List (SymbolId × FunctionSymbol) :=
  t.symbols.mapIdx fun i s => (⟨UInt32.ofNat i⟩, s)

end SymbolTable

end BuiltinLink
