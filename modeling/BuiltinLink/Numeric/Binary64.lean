/-!
Binary floating point numbers of 64 bits as exact values, and the value nearest to a decimal number.
-/

namespace BuiltinLink

/-- A 64-bit floating point value; a finite one is `significand · 2 ^ exponent` with a sign. -/
inductive Binary64 where
  | finite (negative : Bool) (significand : Nat) (exponent : Int)
  | infinite (negative : Bool)
  | nan
deriving DecidableEq, Repr

namespace Binary64

/-- Significands stay below this number. -/
def significandLimit : Nat := 0x20000000000000

def minExponent : Int := -1074

def maxExponent : Int := 971

/-- The integer nearest to `num / den`, of two the even one. -/
def roundHalfEven (num den : Nat) : Nat :=
  let q := num / den
  let r := num % den
  if 2 * r < den then q
  else if den < 2 * r then q + 1
  else q + q % 2

/-- The fraction `num / den` in units of `2 ^ exponent`, as a fraction again. -/
def inUnits (num den : Nat) (exponent : Int) : Nat × Nat :=
  if exponent < 0 then (num * Nat.pow 2 (-exponent).toNat, den)
  else (num, den * Nat.pow 2 exponent.toNat)

/-- The value nearest to the positive fraction `num / den`. -/
def ofFraction (negative : Bool) (num den : Nat) : Binary64 :=
  let guess := max ((num.log2 : Int) - (den.log2 : Int) - 53) minExponent
  let u := inUnits num den guess
  let exponent := if u.1 / u.2 < significandLimit then guess else guess + 1
  let v := inUnits num den exponent
  let m := roundHalfEven v.1 v.2
  if maxExponent < exponent ∨ (exponent = maxExponent ∧ significandLimit ≤ m) then
    infinite negative
  else if m = significandLimit then
    finite negative (m / 2) (exponent + 1)
  else
    finite negative m exponent

/-- The value nearest to `digits · 10 ^ exponent`. Powers far outside the range are not computed. -/
def ofDecimal (negative : Bool) (digits : Nat) (exponent : Int) : Binary64 :=
  if digits = 0 then finite negative 0 minExponent
  else if 400 < exponent then infinite negative
  else if exponent < -400 - (Nat.toDigits 10 digits).length then finite negative 0 minExponent
  else if exponent < 0 then ofFraction negative digits (Nat.pow 10 (-exponent).toNat)
  else ofFraction negative (digits * Nat.pow 10 exponent.toNat) 1

end Binary64

end BuiltinLink
