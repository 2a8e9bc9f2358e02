import SqlAnywhere.Text.LetterCase
import SqlAnywhere.Text.Numeral

/-!
# Reading decimals

A floating-point number is read from a sign, digits with an optional point and
an optional power of ten, or from the words for infinity and for no number.
The digits are taken as one natural number, so that the result is the double
nearest to the decimal that was written.
-/

namespace SqlAnywhere.Decimal

/--
The double nearest to digits times a power of ten.

Where the power alone settles that the value is past the greatest double, or
nearer to zero than to the least, the power of ten is not computed.
-/
def toFloat (digits : Nat) (power : Int) : Float :=
  let places := (Numeral.ofNat digits).length
  if digits = 0 ∨ power + places < -400 then
    0.0
  else if 400 < power + places then
    Float.ofBits 0x7FF0000000000000
  else
    Float.ofScientific digits (power < 0) power.natAbs

/-- The power of ten after a mark for one, or zero where the text ends. -/
def readPower? : Text → Option Int
  | [] => some 0
  | mark :: power =>
      if mark.toLower = 'e' then Numeral.readInt? power else none

/-- An unsigned decimal. -/
def readMagnitude? (text : Text) : Option Float :=
  let whole := text.takeWhile Char.isDigit
  let afterWhole := text.dropWhile Char.isDigit
  let (fraction, rest) :=
    match afterWhole with
    | '.' :: later => (later.takeWhile Char.isDigit, later.dropWhile Char.isDigit)
    | later => ([], later)
  if whole.isEmpty && fraction.isEmpty then
    none
  else
    (readPower? rest).map fun power =>
      toFloat (Nat.ofDigitChars 10 (whole ++ fraction) 0)
        (power - fraction.length)

/-- An unsigned decimal, an infinity or no number. -/
def readUnsigned? (text : Text) : Option Float :=
  if Text.sameLetters text "inf".toList ||
      Text.sameLetters text "infinity".toList then
    some (Float.ofBits 0x7FF0000000000000)
  else if Text.sameLetters text "nan".toList then
    some (Float.ofBits 0x7FF8000000000000)
  else
    readMagnitude? text

/-- A floating-point number with an optional sign. -/
def readFloat? : Text → Option Float
  | '-' :: magnitude => (readUnsigned? magnitude).map fun number => -number
  | '+' :: magnitude => readUnsigned? magnitude
  | magnitude => readUnsigned? magnitude

end SqlAnywhere.Decimal
