import BuiltinLink.Text.GraphemeExtend
import BuiltinLink.Text.Unprintable

/-!
Text shown in double quotes so that every character can be told from its neighbours.
-/

namespace BuiltinLink.Text

/-- The hexadecimal digits of a number, in lower case and without leading zeros. -/
def hexDigits (n : Nat) : List Char :=
  Nat.toDigits 16 n

/-- Whether a character attaches to the one before it. The halfwidth sound marks of Katakana, which
fill a column of their own, do not count. -/
def attaches (c : Char) : Bool :=
  graphemeExtend.contains c && c ≠ '\uff9e' && c ≠ '\uff9f'

/-- Whether a character would not be seen. -/
def isHidden (c : Char) : Bool :=
  unprintable.contains c || defaultIgnorable.contains c

/-- One character as it stands between the quotes. Characters that would not be seen, or that would
attach to the one before, are given by their number. -/
def quotedChar (c : Char) : List Char :=
  match c with
  | '\x00' => ['\\', '0']
  | '\t' => ['\\', 't']
  | '\n' => ['\\', 'n']
  | '\r' => ['\\', 'r']
  | '\\' => ['\\', '\\']
  | '"' => ['\\', '"']
  | c =>
    if attaches c || isHidden c then
      '\\' :: 'u' :: '\x7b' :: (hexDigits c.toNat ++ ['\x7d'])
    else [c]

/-- The text in double quotes. -/
def quoted (s : String) : String :=
  String.ofList ('"' :: (s.toList.flatMap quotedChar ++ ['"']))

end BuiltinLink.Text
