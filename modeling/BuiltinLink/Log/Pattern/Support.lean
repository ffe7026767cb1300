import BuiltinLink.Log.Pattern.Reader

/-!
Which patterns can be searched for. A search works on bytes. Where characters stand for themselves,
nothing may depend on tables of their properties: neither their case nor a category nor words. Where
bytes count, only characters of one byte have properties, and nothing may match a part of a
character.
-/

namespace BuiltinLink.Pattern

/-- How a pattern is understood at some place. -/
structure Mode where
  caseless : Bool := false
  unicode : Bool := true
deriving DecidableEq, Repr

def Mode.set (m : Mode) (f : Flags) : Mode :=
  ⟨f.caseless.getD m.caseless, f.unicode.getD m.unicode⟩

def Literal.isAscii (l : Literal) : Bool :=
  l.char.toNat < 0x80

/-- A category is known for bytes only, where its complement holds parts of characters. -/
def Category.isSupported (m : Mode) (c : Category) : Bool :=
  !m.unicode && !c.isNegated

mutual

def CharSet.isSupported (m : Mode) : CharSet → Bool
  | empty => true
  | char l => if m.unicode then !m.caseless else l.isAscii
  | range a b => if m.unicode then !m.caseless else a.isAscii && b.isAscii
  | named negated _ => if m.unicode then !m.caseless else !negated
  | category c => c.isSupported m
  | bracketed negated s => (m.unicode || !negated) && s.isSupported m
  | union l => areSupported m l
  | operation _ a b => a.isSupported m && b.isSupported m

def CharSet.areSupported (m : Mode) : List CharSet → Bool
  | [] => true
  | s :: l => s.isSupported m && areSupported m l

end

mutual

/-- The mode behind a pattern, if all of it is supported. -/
def after? (m : Mode) : Pattern → Option Mode
  | empty => some m
  | flags f => some (m.set f)
  | char l => if if m.unicode then !m.caseless else !l.byte || l.isAscii then some m else none
  | any => if m.unicode then some m else none
  | look l => if m.unicode && l.isOfWord then none else some m
  | category c => if c.isSupported m then some m else none
  | set negated s => if (m.unicode || !negated) && s.isSupported m then some m else none
  | repeated p => p.after? m
  | group f p => (p.after? (m.set f)).map fun _ => m
  | choice l | sequence l => afterAll? m l

def afterAll? (m : Mode) : List Pattern → Option Mode
  | [] => some m
  | p :: l => (p.after? m).bind fun m => afterAll? m l

end

/-- Whether a text is a pattern that can be searched for. -/
def isPattern (s : List Char) : Bool :=
  (read? s).any fun p => (p.after? {}).isSome

end BuiltinLink.Pattern
