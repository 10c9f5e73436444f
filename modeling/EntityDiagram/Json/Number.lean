import EntityDiagram.Json.Fault

/-!
# Numbers in JSON

A number is spelled by a sign, digits, a fraction and an exponent. A plain whole number in range
stays whole, and every other number is a floating-point number: as many leading digits as fit into
64 bits, multiplied or divided by a power of ten.
-/

namespace EntityDiagram.Json

/-- The spelling of a number. -/
structure Numeral where
  negative : Bool
  /-- The digits before the point. -/
  whole : List Char
  /-- The digits behind the point, if there is one. -/
  fraction : Option (List Char)
  /-- The sign and the digits of the exponent, if there is one. -/
  exponent : Option (Bool × List Char)
  deriving DecidableEq, Repr

/-- The value of a number. -/
inductive Number where
  /-- A whole number from −2⁶³ to 2⁶⁴ − 1. -/
  | integer (value : Int)
  | real (value : Float)
  deriving DecidableEq, Repr

namespace Number

/-- What a number is called where something else was wanted. -/
def found : Number → Found
  | integer value => .integer value
  | real value => .real value

/-- The nearest floating-point number. -/
def toFloat : Number → Float
  | integer value => if value < 0 then -(Float.ofNat value.natAbs) else Float.ofNat value.natAbs
  | real value => value

end Number

/-- The value of a digit. -/
def digitValue (c : Char) : Nat := c.toNat - '0'.toNat

/-- Digits appended to a number while it stays below 2⁶⁴, and the digits that are left over. -/
def absorb (number : Nat) : List Char → Nat × List Char
  | [] => (number, [])
  | c :: rest =>
    let next := 10 * number + digitValue c
    if next < UInt64.size then absorb next rest else (number, c :: rest)

/-- The value of some digits. -/
def digitsValue (digits : List Char) : Nat := digits.foldl (fun n c => 10 * n + digitValue c) 0

/-- A power of ten as the nearest floating-point number. -/
def powerOfTen (exponent : Nat) : Float := Float.ofScientific 1 false exponent

/-- The largest power of ten below the end of the range. -/
def maxPower : Nat := 308

/-- A number divided by a power of ten, in steps of the largest power. -/
def divide (x : Float) (exponent : Nat) : Float :=
  if exponent ≤ maxPower then x / powerOfTen exponent
  else if x == 0 then x
  else divide (x / powerOfTen maxPower) (exponent - maxPower)
termination_by exponent
decreasing_by
  simp only [maxPower] at *
  omega

/-- A whole number times a power of ten; `none` if that lies beyond the range. -/
def scale? (significand : Nat) (exponent : Int) : Option Float :=
  let x := Float.ofNat significand
  if exponent < 0 then some (divide x exponent.natAbs)
  else if exponent.natAbs ≤ maxPower then
    let y := x * powerOfTen exponent.natAbs
    if y.isInf then none else some y
  else if significand = 0 then some x
  else none

/-- The largest exponent that is computed with; beyond it a number is zero or out of range. -/
def maxExponent : Nat := 0x7FFFFFFF

namespace Numeral

/-- The significand of a spelling and the power of ten that it stands for. -/
def significand (numeral : Numeral) : Nat × Int :=
  let (whole, dropped) := absorb 0 numeral.whole
  match numeral.fraction with
  | none => (whole, dropped.length)
  | some fraction =>
    let (all, left) := absorb whole fraction
    (all, dropped.length - (fraction.length - left.length : Nat))

/-- The floating-point number of a spelling without its sign; `none` if it lies beyond the
range. -/
def real? (numeral : Numeral) : Option Float :=
  let (significand, power) := numeral.significand
  match numeral.exponent with
  | none => scale? significand power
  | some (negative, digits) =>
    let exponent := digitsValue digits
    if maxExponent < exponent then
      if significand ≠ 0 && !negative then none else some 0
    else scale? significand (if negative then power - exponent else power + exponent)

/-- The value of a spelling; `none` if it lies beyond the range. Minus zero is a floating-point
number. -/
def number? (numeral : Numeral) : Option Number :=
  let (significand, power) := numeral.significand
  if numeral.fraction.isNone && numeral.exponent.isNone && power = 0 &&
      (!numeral.negative || (0 < significand && significand ≤ UInt64.size / 2)) then
    some (.integer (if numeral.negative then -(significand : Int) else significand))
  else
    numeral.real?.map fun x => .real (if numeral.negative then -x else x)

end Numeral

end EntityDiagram.Json
