/-!
# The value of a double

A double is not a number, infinite, or a sign with a natural number times a
power of two.  What the library asks of a double, whether it is an integer,
which integer is nearest, which decimal is shortest, is answered from these
parts in exact arithmetic.
-/

namespace SqlAnywhere

/-- The parts of a double. -/
inductive Double where
  | notANumber
  | infinite (negative : Bool)
  | finite (negative : Bool) (mantissa : Nat) (exponent : Int)
deriving DecidableEq

namespace Double

/-- The least power of two of a finite double. -/
def leastExponent : Int := -1074

/--
The parts that the sign bit, the exponent field and the fraction field of a
double stand for.
-/
def ofFields (negative : Bool) (exponent fraction : Nat) : Double :=
  if exponent = 2047 then
    if fraction = 0 then .infinite negative else .notANumber
  else if exponent = 0 then
    .finite negative fraction leastExponent
  else
    .finite negative (Nat.pow 2 52 + fraction)
      (leastExponent + (exponent - 1))

/-- The parts of a double. -/
def ofFloat (number : Float) : Double :=
  let bits := number.toBits.toNat
  ofFields (Nat.pow 2 63 ≤ bits) (bits / Nat.pow 2 52 % Nat.pow 2 11)
    (bits % Nat.pow 2 52)

/-- The 64-bit integer nearest to an integer. -/
def clampInt64 (number : Int) : Int64 :=
  Int64.ofInt (max Int64.minValue.toInt (min Int64.maxValue.toInt number))

/-- An integer with a sign. -/
def signed (negative : Bool) (magnitude : Nat) : Int :=
  if negative then -magnitude else magnitude

/-- The integer that a double equals. -/
def integer? : Double → Option Int
  | .finite negative mantissa exponent =>
      if 0 ≤ exponent then
        some (signed negative (mantissa * Nat.pow 2 exponent.toNat))
      else
        let unit := Nat.pow 2 (-exponent).toNat
        if mantissa % unit = 0 then
          some (signed negative (mantissa / unit))
        else
          none
  | _ => none

/-- The integer nearest to a double; a half goes away from zero. -/
def rounded? : Double → Option Int
  | .finite negative mantissa exponent =>
      if 0 ≤ exponent then
        some (signed negative (mantissa * Nat.pow 2 exponent.toNat))
      else
        let unit := Nat.pow 2 (-exponent).toNat
        some (signed negative ((2 * mantissa + unit) / (2 * unit)))
  | _ => none

/-- The 64-bit integer nearest to a double that is an integer. -/
def int64? (number : Double) : Option Int64 :=
  number.integer?.map clampInt64

end Double

end SqlAnywhere
