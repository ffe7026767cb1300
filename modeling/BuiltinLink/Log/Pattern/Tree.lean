/-!
Search patterns as trees.
-/

namespace BuiltinLink

namespace Pattern

/-- A character that a pattern spells; `byte` marks one given by two hexadecimal digits. -/
structure Literal where
  char : Char
  byte : Bool := false
deriving DecidableEq, Repr

/-- Places between characters. -/
inductive Look where
  | lineStart
  | lineEnd
  | textStart
  | textEnd
  | wordEdge
  | notWordEdge
  | wordStart
  | wordEnd
deriving DecidableEq, Repr

def Look.isOfWord : Look → Bool
  | wordEdge | notWordEdge | wordStart | wordEnd => true
  | lineStart | lineEnd | textStart | textEnd => false

/-- Digits, blanks or the characters of words, or all others. -/
inductive Category where
  | digit (negated : Bool)
  | blank (negated : Bool)
  | word (negated : Bool)
deriving DecidableEq, Repr

def Category.isNegated : Category → Bool
  | digit n | blank n | word n => n

inductive SetOperation where
  | intersection
  | difference
  | symmetricDifference
deriving DecidableEq, Repr

/-- What stands between brackets. -/
inductive CharSet where
  | empty
  | char (l : Literal)
  | range (a b : Literal)
  | named (negated : Bool) (name : String)
  | category (c : Category)
  | bracketed (negated : Bool) (s : CharSet)
  | union (l : List CharSet)
  | operation (o : SetOperation) (a b : CharSet)
deriving Repr

/-- Flags that are set or taken back; `none` leaves one as it was. Other flags are not kept. -/
structure Flags where
  caseless : Option Bool := none
  unicode : Option Bool := none
  spaced : Option Bool := none
deriving DecidableEq, Repr

end Pattern

/-- A search pattern. -/
inductive Pattern where
  | empty
  | flags (f : Pattern.Flags)
  | char (l : Pattern.Literal)
  | any
  | look (l : Pattern.Look)
  | category (c : Pattern.Category)
  | set (negated : Bool) (s : Pattern.CharSet)
  | repeated (p : Pattern)
  | group (f : Pattern.Flags) (p : Pattern)
  | choice (l : List Pattern)
  | sequence (l : List Pattern)
deriving Repr

namespace Pattern

/-- The union of sets, which is one only of two or more. -/
def CharSet.ofList : List CharSet → CharSet
  | [] => empty
  | [s] => s
  | l => union l

/-- A pattern for one pattern after another. -/
def ofList : List Pattern → Pattern
  | [] => empty
  | [p] => p
  | l => sequence l

mutual

/-- How many sets are within each other. -/
def CharSet.height : CharSet → Nat
  | empty | char _ | range _ _ | named _ _ | category _ => 0
  | bracketed _ s => s.height + 1
  | union l => heights l + 1
  | operation _ a b => max a.height b.height + 1

def CharSet.heights : List CharSet → Nat
  | [] => 0
  | s :: l => max s.height (heights l)

end

mutual

/-- How many patterns and sets are within each other. -/
def height : Pattern → Nat
  | empty | flags _ | char _ | any | look _ | category _ => 0
  | set _ s => s.height + 1
  | repeated p | group _ p => p.height + 1
  | choice l | sequence l => heights l + 1

def heights : List Pattern → Nat
  | [] => 0
  | p :: l => max p.height (heights l)

end

end Pattern

end BuiltinLink
