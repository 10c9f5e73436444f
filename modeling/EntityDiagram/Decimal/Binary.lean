/-!
# Binary fractions

A finite floating-point number is a whole number times a power of two. `Float.parts` takes a number
apart into its sign, this whole number and the exponent of the power, all exact.
-/

namespace EntityDiagram.Decimal

/-- A floating-point number taken apart. -/
inductive Parts where
  /-- The value `± significand · 2 ^ exponent`. The flag says whether the next smaller number is
  only half as far away as the next larger one. -/
  | finite (negative : Bool) (significand : Nat) (exponent : Int) (narrowBelow : Bool)
  | infinite (negative : Bool)
  | notANumber
  deriving DecidableEq, Repr

/-- The value of the bit above the 52 bits of the fraction, which is not stored. -/
def hiddenBit : Nat := 1 <<< 52

/-- The parts of a number. -/
def parts (x : Float) : Parts :=
  let bits := x.toBits.toNat
  let negative := bits >>> 63 == 1
  let biased : Nat := (bits >>> 52) % 2048
  let fraction := bits % hiddenBit
  if biased == 2047 then if fraction == 0 then .infinite negative else .notANumber
  else if biased == 0 then .finite negative fraction (-1074) false
  else .finite negative (hiddenBit + fraction) ((biased : Int) - 1075) (fraction == 0 && biased != 1)

/-- Whether a number is neither infinite nor undefined. -/
def isFinite (x : Float) : Bool :=
  match parts x with
  | .finite .. => true
  | _ => false

end EntityDiagram.Decimal
