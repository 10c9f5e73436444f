/-!
# The shortest decimal

Of all decimals that are nearer to a given floating-point number than to any other, the shortest is
the one with the fewest digits, and of those with equally many the nearest; of two equally near
ones, the one with the even last digit. All comparisons are exact.
-/

namespace EntityDiagram.Decimal

/-- A positive number `significand · 2 ^ exponent` as a quotient of whole numbers, together with the
ends of the interval of reals that are rounded to it, over the same denominator. -/
structure Interval where
  lower : Nat
  value : Nat
  upper : Nat
  denominator : Nat
  /-- Whether the ends belong to the interval. -/
  closed : Bool
  deriving DecidableEq, Repr

/-- The interval around a binary number. Its ends lie halfway to the neighbours, and they belong to
it if the significand is even. -/
def Interval.of (significand : Nat) (exponent : Int) (narrowBelow : Bool) : Interval :=
  let scale := 1 <<< (exponent - 2).toNat
  { lower := (4 * significand - if narrowBelow then 1 else 2) * scale
    value := 4 * significand * scale
    upper := (4 * significand + 2) * scale
    denominator := 1 <<< (2 - exponent).toNat
    closed := significand % 2 == 0 }

/-- A power of ten. -/
def tenTo (exponent : Nat) : Nat := Nat.pow 10 exponent

/-- A decimal `digits · 10 ^ exponent`. -/
structure Expansion where
  digits : Nat
  exponent : Int
  deriving DecidableEq, Repr

namespace Expansion

/-- One side of a comparison of the decimal with a quotient, which holds its denominator: the two
sides of the comparison with `n / denominator` are `d.scaled denominator` and `d.against n`. -/
def scaled (d : Expansion) (denominator : Nat) : Nat :=
  d.digits * tenTo d.exponent.toNat * denominator

/-- The other side of a comparison of the decimal with a quotient. -/
def against (d : Expansion) (n : Nat) : Nat := n * tenTo (-d.exponent).toNat

/-- Whether the decimal lies in an interval. -/
def isIn (d : Expansion) (i : Interval) : Bool :=
  let x := d.scaled i.denominator
  if i.closed then d.against i.lower ≤ x && x ≤ d.against i.upper
  else d.against i.lower < x && x < d.against i.upper

/-- How far the decimal lies from the middle of an interval, for comparison with decimals of the
same exponent. -/
def distance (d : Expansion) (i : Interval) : Nat :=
  let x := d.scaled i.denominator
  let y := d.against i.value
  (x - y) + (y - x)

end Expansion

/-- The number of decimal digits of a number. -/
def digitCount (n : Nat) : Nat := (Nat.toDigits 10 n).length

/-- The exponent `k` with `10 ^ (k - 1) ≤ numerator / denominator < 10 ^ k`, but for powers of ten
below one. -/
def magnitude (numerator denominator : Nat) : Int :=
  if denominator ≤ numerator then digitCount (numerator / denominator)
  else 1 - digitCount (denominator / numerator)

/-- The nearer of two neighbours on the grid of decimals with one exponent that lie in an interval;
of two equally near ones, the even one. -/
def onGrid? (i : Interval) (exponent : Int) : Option Expansion :=
  let below : Expansion :=
    ⟨i.value * tenTo (-exponent).toNat / (i.denominator * tenTo exponent.toNat), exponent⟩
  let above : Expansion := ⟨below.digits + 1, exponent⟩
  match below.isIn i, above.isIn i with
  | false, false => none
  | true, false => some below
  | false, true => some above
  | true, true =>
    if below.distance i < above.distance i then some below
    else if above.distance i < below.distance i then some above
    else if below.digits % 2 == 0 then some below else some above

/-- The largest number of digits that any floating-point number needs. -/
def maxDigits : Nat := 17

/-- The shortest decimal in the interval around a positive binary number. -/
def shortest (significand : Nat) (exponent : Int) (narrowBelow : Bool) : Expansion :=
  let i := Interval.of significand exponent narrowBelow
  let top := magnitude i.value i.denominator
  ((List.range maxDigits).findSome? fun (n : Nat) => onGrid? i (top - (n + 1))).getD
    ⟨i.value / i.denominator, 0⟩

end EntityDiagram.Decimal
