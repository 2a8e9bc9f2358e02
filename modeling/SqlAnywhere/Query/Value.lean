import SqlAnywhere.Decimal.Shortest
import SqlAnywhere.Text.Blank

/-!
# Catalog values

A catalog row holds integers, floating-point numbers, texts and nulls.  Which
of them a column comes as depends on the server, so that an integer is also
taken from a number without a fraction and from the digits of a text.
-/

namespace SqlAnywhere

/-- A value of a catalog row. -/
inductive Value where
  | null
  | integer (value : Int64)
  | float (value : Float)
  | text (value : Text)
deriving BEq

namespace Value

/-- Whether a value is null. -/
def isNull : Value → Bool
  | .null => true
  | _ => false

/-- The integer that a value stands for. -/
def toInt64? : Value → Option Int64
  | .null => none
  | .integer value => some value
  | .float value => (Double.ofFloat value).int64?
  | .text value => Numeral.readInt64? (Text.trim value)

/-- The text of a value that is not null. -/
def toText? : Value → Option Text
  | .null => none
  | .integer value => some (Numeral.ofInt64 value)
  | .float value => some (floatText value)
  | .text value => some value

/-- The text of a value, where null has a text too. -/
def display (value : Value) : Text :=
  value.toText?.getD "NULL".toList

@[simp]
theorem toText?_eq_none_iff (value : Value) :
    value.toText? = none ↔ value.isNull := by
  cases value <;> simp [toText?, isNull]

end Value

end SqlAnywhere
