import SqlAnywhere.Text.LetterCase

/-!
# Portable column types

A portable type names what a column holds without the vocabulary of the
server.  Its name is written in lower case and read in any ASCII case.
-/

namespace SqlAnywhere

/--
What a column holds, independent of the names that the server has for it.
-/
inductive PortableType where
  | primaryKey
  | unsignedPrimaryKey
  | bigPrimaryKey
  | unsignedBigPrimaryKey
  | char
  | varchar
  | string
  | text
  | tinyInt
  | smallInt
  | integer
  | bigInt
  | float
  | double
  | decimal
  | dateTime
  | timestamp
  | time
  | date
  | binary
  | boolean
  | money
deriving DecidableEq

namespace PortableType

/-- Every portable type. -/
def all : List PortableType :=
  [.primaryKey, .unsignedPrimaryKey, .bigPrimaryKey, .unsignedBigPrimaryKey,
    .char, .varchar, .string, .text, .tinyInt, .smallInt, .integer, .bigInt,
    .float, .double, .decimal, .dateTime, .timestamp, .time, .date, .binary,
    .boolean, .money]

/-- The name of a portable type. -/
def name : PortableType → Text
  | .primaryKey => "pk".toList
  | .unsignedPrimaryKey => "upk".toList
  | .bigPrimaryKey => "bigpk".toList
  | .unsignedBigPrimaryKey => "ubigpk".toList
  | .char => "char".toList
  | .varchar => "varchar".toList
  | .string => "string".toList
  | .text => "text".toList
  | .tinyInt => "tinyint".toList
  | .smallInt => "smallint".toList
  | .integer => "integer".toList
  | .bigInt => "bigint".toList
  | .float => "float".toList
  | .double => "double".toList
  | .decimal => "decimal".toList
  | .dateTime => "datetime".toList
  | .timestamp => "timestamp".toList
  | .time => "time".toList
  | .date => "date".toList
  | .binary => "binary".toList
  | .boolean => "boolean".toList
  | .money => "money".toList

/-- The portable type of a name in any ASCII case. -/
def ofName? (text : Text) : Option PortableType :=
  all.find? fun portable => Text.sameLetters portable.name text

/-- Types that hold whole numbers. -/
def isInteger : PortableType → Bool
  | .primaryKey | .unsignedPrimaryKey | .bigPrimaryKey
  | .unsignedBigPrimaryKey | .tinyInt | .smallInt | .integer | .bigInt => true
  | _ => false

/-- Types that hold floating-point numbers. -/
def isFloat : PortableType → Bool
  | .float | .double => true
  | _ => false

/-- Types for which the empty default is a value of its own. -/
def isTextual : PortableType → Bool
  | .char | .varchar | .string | .text | .binary => true
  | _ => false

theorem mem_all (portable : PortableType) : portable ∈ all := by
  cases portable <;> decide

/-- A type is read back from its own name. -/
@[simp]
theorem ofName?_name (portable : PortableType) :
    ofName? portable.name = some portable := by
  cases portable <;> decide

/-- A name is read as the type whose name it has. -/
theorem sameLetters_of_ofName? {text : Text} {portable : PortableType}
    (read : ofName? text = some portable) :
    Text.sameLetters portable.name text := by
  have found := List.find?_some read
  exact found

end PortableType

end SqlAnywhere
