import SqlAnywhere.ColumnType.Reported
import SqlAnywhere.Decimal.Reader

/-!
# Column defaults

The catalog reports a default as the text of an expression.  A literal of the
column's type becomes a value; any other text stays an expression for the
server to evaluate.
-/

namespace SqlAnywhere

/-- The default of a column. -/
inductive ColumnDefault where
  | integer (value : Int64)
  | float (value : Float)
  | boolean (value : Bool)
  | text (value : Text)
  /-- An expression that is no literal of the column's type. -/
  | expression (source : Text)
deriving BEq

namespace ColumnDefault

/--
What stands between the quotes of a literal, with each pair of quotes read as
one.
-/
def unquote? : Text → Option Text
  | '\'' :: rest =>
      match rest.getLast? with
      | some '\'' => some (Text.undoubled '\'' rest.dropLast)
      | _ => none
  | _ => none

/-- Whether a default lets the server generate keys. -/
def generatesKeys (raw : Text) : Bool :=
  let name := plainName raw
  "autoincrement".toList.isPrefixOf name ||
    "global autoincrement".toList.isPrefixOf name

/-- The defaults that stand for the current time. -/
def currentTimes : List Text :=
  ["current timestamp".toList, "current_timestamp".toList,
    "current_timestamp()".toList, "current utc timestamp".toList,
    "timestamp".toList, "utc timestamp".toList, "now()".toList,
    "getdate()".toList]

/-- Whether a default stands for the current time. -/
def isCurrentTime (raw : Text) : Bool :=
  currentTimes.contains (plainName raw)

/-- The truth value that a word denotes. -/
def readBoolean? (word : Text) : Option Bool :=
  let word := Text.lower word
  if word ∈ ["1".toList, "true".toList, "on".toList] then
    some true
  else if word ∈ ["0".toList, "false".toList, "off".toList] then
    some false
  else
    none

/-- Whether a trimmed default says that there is none. -/
def isAbsent (portable : PortableType) (raw : Text) : Bool :=
  Text.sameLetters raw "null".toList || Text.sameLetters raw "(null)".toList ||
    (raw.isEmpty && !portable.isTextual)

/-- The value of a trimmed default that is a literal of a type. -/
def literal? (portable : PortableType) (raw : Text) : Option ColumnDefault :=
  let quoted := unquote? raw
  let value := Text.trim (quoted.getD raw)
  if portable.isInteger then
    (Numeral.readInt64? value).map .integer
  else if portable.isFloat then
    (Decimal.readFloat? value).map .float
  else
    match portable with
    | .boolean => (readBoolean? value).map .boolean
    | .decimal | .money => (Decimal.readFloat? value).map fun _ => .text value
    | _ => if raw.isEmpty then some (.text []) else quoted.map .text

/--
The default that the catalog's text gives a column of a type, if it gives
one.
-/
def ofRaw (portable : PortableType) (raw : Text) : Option ColumnDefault :=
  let raw := Text.trim raw
  if isAbsent portable raw then
    none
  else
    some ((literal? portable raw).getD (.expression raw))

end ColumnDefault

end SqlAnywhere
