import SqlAnywhere.Decimal.Double
import SqlAnywhere.Text.Numeral

/-!
# Shortest decimals

A double is written with the fewest decimal digits that read back as it.  The
reals that read back as a double form an interval around it, which holds its
ends exactly if the mantissa is even.  On the grid of the multiples of a power
of ten, one of the two neighbours of the double lies in the interval if any
point of the grid does; the coarsest grid with such a point gives the digits.
-/

namespace SqlAnywhere

namespace Double

/--
The distance, in quarters of the unit in the last place, to the lower end of
the interval that reads back as a double; it is half the usual one where the
doubles below lie closer together.
-/
def lowerReach (mantissa : Nat) (exponent : Int) : Nat :=
  if mantissa = Nat.pow 2 52 ∧ leastExponent < exponent then 1 else 2

/-- The distance, in the same quarters, to the upper end. -/
def upperReach : Nat := 2

/--
A quarter of the unit in the last place, divided by a power of ten, as a
fraction.
-/
def gridRatio (exponent power : Int) : Nat × Nat :=
  let quarter := exponent - 2
  (Nat.pow 2 quarter.toNat * Nat.pow 10 (-power).toNat,
    Nat.pow 2 (-quarter).toNat * Nat.pow 10 power.toNat)

/--
The multiple of a power of ten that reads back as a double and is nearest to
it, if there is one; of two at one distance the greater is taken.
-/
def onGrid? (mantissa : Nat) (exponent power : Int) : Option Nat :=
  let (numerator, denominator) := gridRatio exponent power
  let value := 4 * mantissa * numerator
  let low := (4 * mantissa - lowerReach mantissa exponent) * numerator
  let high := (4 * mantissa + upperReach) * numerator
  let reads (point : Nat) : Bool :=
    let position := point * denominator
    if mantissa % 2 = 0 then
      low ≤ position && position ≤ high
    else
      low < position && position < high
  let below := value / denominator
  let above := below + 1
  if reads above then
    if reads below ∧
        value - below * denominator < above * denominator - value then
      some below
    else
      some above
  else if reads below then
    some below
  else
    none

/--
The greatest power of ten whose multiples are tried, one above the greatest
double.
-/
def coarsestPower : Int := 309

/--
The number of powers of ten that are tried, enough for seventeen digits of
the least double.
-/
def gridCount : Nat := 660

/--
The digits and the power of ten of the shortest decimal that reads back as a
positive double.
-/
def shortest (mantissa : Nat) (exponent : Int) : Nat × Int :=
  let found := (List.range gridCount).findSome? fun (step : Nat) =>
    let power := coarsestPower - step
    (onGrid? mantissa exponent power).map fun digits => (digits, power)
  found.getD (0, 0)

/--
Digits times a power of ten in positional notation, with a point only before
a fraction.
-/
def positional (digits : Nat) (power : Int) : Text :=
  let text := Numeral.ofNat digits
  if 0 ≤ power then
    text ++ List.replicate power.toNat '0'
  else
    let places := (-power).toNat
    let padded := List.replicate (places + 1 - text.length) '0' ++ text
    let whole := padded.length - places
    padded.take whole ++ '.' :: padded.drop whole

/--
A double as a text: the shortest digits that read back, never with an
exponent.
-/
def toText : Double → Text
  | .notANumber => "NaN".toList
  | .infinite negative =>
      if negative then "-inf".toList else "inf".toList
  | .finite negative mantissa exponent =>
      let magnitude :=
        if mantissa = 0 then
          ['0']
        else
          let (digits, power) := shortest mantissa exponent
          positional digits power
      if negative then '-' :: magnitude else magnitude

end Double

/-- A floating-point number as a text. -/
def floatText (number : Float) : Text :=
  (Double.ofFloat number).toText

end SqlAnywhere
