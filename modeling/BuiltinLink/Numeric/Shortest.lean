import BuiltinLink.Numeric.Binary64

/-!
The shortest decimal that reads back as a given binary value, written out in full.
-/

namespace BuiltinLink

/-- A positive decimal number `digits · 10 ^ exponent`. -/
structure Decimal where
  digits : Nat
  exponent : Int
deriving DecidableEq, Repr

namespace Decimal

/-- Moves trailing zeros of the digits into the exponent; at most `n` of them. -/
def normalize : Nat → Decimal → Decimal
  | 0, d => d
  | n + 1, d => if d.digits % 10 = 0 then normalize n ⟨d.digits / 10, d.exponent + 1⟩ else d

/-- The number in positional notation, with a point and at least one digit on both sides of it. -/
def positional (d : Decimal) : List Char :=
  let ds := Nat.toDigits 10 d.digits
  if 0 ≤ d.exponent then ds ++ List.replicate d.exponent.toNat '0' ++ ['.', '0']
  else
    let places := (-d.exponent).toNat
    let padded := List.replicate (places + 1 - ds.length) '0' ++ ds
    padded.take (padded.length - places) ++ '.' :: padded.drop (padded.length - places)

end Decimal

namespace Binary64

/-- The fractions `low / den ≤ value / den ≤ high / den` around a positive value: the reals between
the outer two are read as the value, the outer two themselves only if `closed`. -/
structure Neighbourhood where
  low : Nat
  value : Nat
  high : Nat
  den : Nat
  closed : Bool

/-- The reals that are read as `significand · 2 ^ exponent`. Below a power of two values lie twice
as close as above it. -/
def neighbourhood (significand : Nat) (exponent : Int) : Neighbourhood :=
  let below := if significand * 2 = significandLimit ∧ minExponent < exponent then 1 else 2
  let scale := inUnits 1 4 (-exponent)
  { low := (4 * significand - below) * scale.1
    value := 4 * significand * scale.1
    high := (4 * significand + 2) * scale.1
    den := scale.2
    closed := significand % 2 == 0 }

/-- Whether `num / den` is read as the value in the middle. -/
def Neighbourhood.contains (b : Neighbourhood) (num den : Nat) : Bool :=
  let low := b.low * den
  let high := b.high * den
  let x := num * b.den
  if b.closed then low ≤ x && x ≤ high else low < x && x < high

/-- The multiples of `10 ^ exponent` on both sides of the value that are read as the value, the
nearer one if both are; of two equally near ones the greater. -/
def Neighbourhood.onGrid? (b : Neighbourhood) (exponent : Int) : Option Decimal :=
  let num := if exponent < 0 then 1 else Nat.pow 10 exponent.toNat
  let den := if exponent < 0 then Nat.pow 10 (-exponent).toNat else 1
  let floor := b.value * den / (b.den * num)
  let rest := b.value * den - floor * (b.den * num)
  let lowHit := b.contains (floor * num) den
  let highHit := b.contains ((floor + 1) * num) den
  if lowHit && (!highHit || 2 * rest < b.den * num) then some ⟨floor, exponent⟩
  else if highHit then some ⟨floor + 1, exponent⟩
  else none

/-- Tries grids of `n` decreasing steps from `10 ^ exponent` on. -/
def Neighbourhood.search (b : Neighbourhood) : Nat → Int → Option Decimal
  | 0, _ => none
  | n + 1, exponent => b.onGrid? exponent <|> b.search n (exponent - 1)

/-- The exponent of the leading decimal digit. -/
def Neighbourhood.leading (b : Neighbourhood) : Int :=
  ((Nat.toDigits 10 (b.value * Nat.pow 10 400 / b.den)).length : Int) - 401

/-- The decimal with the fewest digits that is read as `significand · 2 ^ exponent`; seventeen
digits always suffice. -/
def shortest (significand : Nat) (exponent : Int) : Decimal :=
  let b := neighbourhood significand exponent
  match b.search 17 b.leading with
  | some d => d.normalize 17
  | none => ⟨0, 0⟩

/-- The value in full: positional, with a fraction even if it is integral. -/
def text : Binary64 → String
  | nan => "NaN"
  | infinite negative => if negative then "-inf" else "inf"
  | finite negative significand exponent =>
    let digits := if significand = 0 then ['0', '.', '0']
      else (shortest significand exponent).positional
    String.ofList (if negative then '-' :: digits else digits)

end Binary64

end BuiltinLink
