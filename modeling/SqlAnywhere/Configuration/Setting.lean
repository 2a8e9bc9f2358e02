import SqlAnywhere.Decimal.Shortest
import SqlAnywhere.Text.LetterCase
import SqlAnywhere.Text.Quoted

/-!
# Settings

A configuration file holds settings: scalars, lists and tables.  A scalar is
taken for what is asked for where that is possible: a number for a text, and a
text, a truth value or a fraction for a number.
-/

namespace SqlAnywhere

/-- A value in a configuration file. -/
inductive Setting where
  | text (value : Text)
  | integer (value : Int64)
  | float (value : Float)
  | boolean (value : Bool)
  | list (items : List Setting)
  | table (members : List (Text × Setting))

namespace Setting

/-- The word for a truth value. -/
def booleanWord (value : Bool) : Text :=
  if value then "true".toList else "false".toList

/-- The text of a scalar. -/
def toText? : Setting → Option Text
  | .text value => some value
  | .integer value => some (Numeral.ofInt64 value)
  | .float value => some (floatText value)
  | .boolean value => some (booleanWord value)
  | .list _ | .table _ => none

/-- The number that a text stands for: a word for a truth value, or digits. -/
def numberOfText? (text : Text) : Option UInt64 :=
  let word := Text.lower text
  if ["true".toList, "on".toList, "yes".toList].contains word then
    some 1
  else if ["false".toList, "off".toList, "no".toList].contains word then
    some 0
  else
    Numeral.readUInt64? text

/--
The 64-bit number nearest to a double; a half goes up, and no number is zero.
-/
def numberOfDouble : Double → UInt64
  | .notANumber => 0
  | .infinite negative => if negative then 0 else .ofNat (UInt64.size - 1)
  | .finite negative mantissa exponent =>
      let rounded := (Double.finite negative mantissa exponent).rounded?
      .ofNat (min (rounded.getD 0).toNat (UInt64.size - 1))

/-- The number that a scalar stands for. -/
def toNumber? : Setting → Option UInt64
  | .text value => numberOfText? value
  | .integer value =>
      if 0 ≤ value then some value.toUInt64 else none
  | .float value => some (numberOfDouble (Double.ofFloat value))
  | .boolean value => some (if value then 1 else 0)
  | .list _ | .table _ => none

/-- A floating-point number with a point, unless it is not finite. -/
def pointedText (value : Float) : Text :=
  let text := floatText value
  if value.isFinite && !text.contains '.' then
    text ++ ".0".toList
  else
    text

/-- A scalar as a message describes it. -/
def description : Setting → Text
  | .text value => "string ".toList ++ Text.quoted value
  | .integer value => "integer `".toList ++ Numeral.ofInt64 value ++ "`".toList
  | .float value => "floating point `".toList ++ pointedText value ++ "`".toList
  | .boolean value => "boolean `".toList ++ booleanWord value ++ "`".toList
  | .list _ => "sequence".toList
  | .table _ => "map".toList

end Setting

end SqlAnywhere
