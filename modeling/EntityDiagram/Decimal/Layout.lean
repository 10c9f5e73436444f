import EntityDiagram.Decimal.Binary
import EntityDiagram.Decimal.Shortest

/-!
# Laying out decimals

Which digits stand for a number is one question, how they are written another. A `Layout` answers
the second: it says for which magnitudes the digits stand around a point, and how an exponent is
written otherwise.
-/

namespace EntityDiagram.Decimal

/-- How decimals are written. The exponent of the leading digit decides between the two forms. -/
structure Layout where
  /-- The least exponent of numbers written around a point. -/
  positionalFrom : Int
  /-- The largest exponent of numbers written around a point. -/
  positionalTo : Int
  /-- What stands between the digits and the exponent. -/
  mark : String
  /-- What stands in front of an exponent that is not negative. -/
  plus : String
  deriving DecidableEq, Repr

namespace Layout

/-- Digits around a point, at least one on each side; `exponent` is that of the first digit. -/
def positional (digits : List Char) (exponent : Int) : List Char :=
  if exponent < 0 then
    '0' :: '.' :: (List.replicate (-exponent - 1).toNat '0' ++ digits)
  else
    let whole := exponent.toNat + 1
    let left := digits.take whole ++ List.replicate (whole - digits.length) '0'
    let right := digits.drop whole
    left ++ '.' :: if right.isEmpty then ['0'] else right

/-- The first digit, the others behind a point, and the exponent. -/
def scientific (layout : Layout) (digits : List Char) (exponent : Int) : List Char :=
  let tail := match digits with
    | first :: [] => [first]
    | first :: rest => first :: '.' :: rest
    | [] => []
  tail ++ layout.mark.toList ++
    (if exponent < 0 then "-" else layout.plus).toList ++ Nat.toDigits 10 exponent.natAbs

/-- A positive decimal; zeros at the end of the digits are dropped. -/
def write (layout : Layout) (d : Expansion) : List Char :=
  let all := Nat.toDigits 10 d.digits
  let exponent := d.exponent + (all.length - 1 : Nat)
  let digits := (all.reverse.dropWhile (· == '0')).reverse
  if layout.positionalFrom ≤ exponent && exponent ≤ layout.positionalTo then
    positional digits exponent
  else layout.scientific digits exponent

/-- A number by its shortest decimal; `none` if it is not finite. -/
def text? (layout : Layout) (x : Float) : Option String :=
  match parts x with
  | .finite negative significand exponent narrowBelow =>
    let digits :=
      if significand = 0 then ['0', '.', '0']
      else layout.write (shortest significand exponent narrowBelow)
    some (String.ofList (if negative then '-' :: digits else digits))
  | _ => none

end Layout

end EntityDiagram.Decimal
