import BuiltinLink.Log.Pattern.Tree
import BuiltinLink.Text.Alphanumeric
import BuiltinLink.Text.Blank
import BuiltinLink.Text.Hex

/-!
The smallest pieces of a pattern: blanks, escapes, the names and flags of groups. In a spaced
pattern blanks and comments count for nothing between pieces.
-/

namespace BuiltinLink.Pattern

open Text

/-- Drops blanks and comments; `comment` tells whether the text begins within one. -/
def dropSpace (comment : Bool) : List Char → List Char
  | [] => []
  | c :: r =>
    if comment then dropSpace (c ≠ '\n') r
    else if c = '#' then dropSpace true r
    else if isBlank c then dropSpace false r
    else c :: r

def skipSpace (spaced : Bool) (s : List Char) : List Char :=
  if spaced then dropSpace false s else s

/-- The character that decides what a hyphen means. Of a comment, only the sign that begins it is
skipped here. -/
def ahead (spaced : Bool) (s : List Char) : Option Char :=
  if spaced then
    match s.dropWhile isBlank with
    | '#' :: r => (r.dropWhile isBlank).head? <|> s.head?
    | c :: _ => some c
    | [] => s.head?
  else s.head?

/-- The next `n` hexadecimal digits. -/
def digits? (spaced : Bool) : Nat → List Char → Option (List Char × List Char)
  | 0, r => some ([], r)
  | _ + 1, [] => none
  | n + 1, c :: r =>
    if (hexValue? c).isSome then
      (digits? spaced n (skipSpace spaced r)).map fun p => (c :: p.1, p.2)
    else none

/-- What a character or an escape stands for. -/
inductive Atom where
  | char (l : Literal)
  | look (l : Look)
  | category (c : Category)
deriving DecidableEq, Repr

/-- A character by its number in `n` hexadecimal digits. -/
def numberedAtom? (spaced : Bool) (n : Nat) (s : List Char) : Option (Atom × List Char) := do
  let (ds, r) ← digits? spaced n (skipSpace spaced s)
  let (c, _) ← numbered? n ds
  return (.char ⟨c, n = 2⟩, r)

/-- The escape behind a backslash. There are none for properties of characters, or for groups. -/
def escape? (spaced : Bool) : List Char → Option (Atom × List Char)
  | 'x' :: r => numberedAtom? spaced 2 r
  | 'u' :: r => numberedAtom? spaced 4 r
  | 'U' :: r => numberedAtom? spaced 8 r
  | 'd' :: r => some (.category (.digit false), r)
  | 'D' :: r => some (.category (.digit true), r)
  | 's' :: r => some (.category (.blank false), r)
  | 'S' :: r => some (.category (.blank true), r)
  | 'w' :: r => some (.category (.word false), r)
  | 'W' :: r => some (.category (.word true), r)
  | 'A' :: r => some (.look .textStart, r)
  | 'z' :: r => some (.look .textEnd, r)
  | 'b' :: r => some (.look .wordEdge, r)
  | 'B' :: r => some (.look .notWordEdge, r)
  | '<' :: r => some (.look .wordStart, r)
  | '>' :: r => some (.look .wordEnd, r)
  | 'a' :: r => some (.char ⟨'\x07', false⟩, r)
  | 't' :: r => some (.char ⟨'\t', false⟩, r)
  | 'n' :: r => some (.char ⟨'\n', false⟩, r)
  | 'v' :: r => some (.char ⟨'\x0b', false⟩, r)
  | 'f' :: r => some (.char ⟨'\x0c', false⟩, r)
  | 'r' :: r => some (.char ⟨'\r', false⟩, r)
  | c :: r => if c.toNat < 0x80 ∧ ¬c.isAlphanum then some (.char ⟨c, false⟩, r) else none
  | [] => none

/-- A setting of a flag: the flag, and a hyphen before it if it is taken back. -/
def setting (flags : List Char) (c : Char) : Option Bool :=
  if flags.contains c then some ((flags.takeWhile (· ≠ '-')).contains c) else none

/-- Reads flags. Each may come once, and a hyphen must come before one. -/
def readFlags? (s : List Char) : Option Flags :=
  if s.all "imsUuRx-".toList.contains ∧ s.Nodup ∧ s.getLast? ≠ some '-' then
    some ⟨setting s 'i', setting s 'u', setting s 'x'⟩
  else none

def isGroupName : List Char → Bool
  | [] => false
  | c :: r =>
    (c == '_' || isAlphabetic c) &&
      r.all fun c => c == '_' || c == '.' || c == '[' || c == ']' || isAlphanumeric c

/-- What stands behind an opening parenthesis: the beginning of a group, which may have a name, or
flags for the rest of the group around. -/
inductive Opening where
  | group (f : Flags) (name : Option (List Char))
  | flags (f : Flags)
deriving DecidableEq, Repr

def opening? : List Char → Option (Opening × List Char)
  | '?' :: 'P' :: '<' :: r | '?' :: '<' :: r =>
    let name := r.takeWhile (· ≠ '>')
    match r.drop name.length with
    | _ :: r => if isGroupName name then some (.group {} (some name), r) else none
    | [] => none
  | '?' :: r => do
    let s := r.takeWhile fun c => c ≠ ':' ∧ c ≠ ')'
    let flags ← readFlags? s
    match r.drop s.length with
    | ':' :: r => some (.group flags none, r)
    | ')' :: r => if s = [] then none else some (.flags flags, r)
    | _ => none
  | r => some (.group {} none, r)

end BuiltinLink.Pattern
