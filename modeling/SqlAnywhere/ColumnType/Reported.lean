import SqlAnywhere.ColumnType.Portable
import SqlAnywhere.Text.Blank
import SqlAnywhere.Text.Numeral

/-!
# Reported column types

The catalog reports the type of a column as a name of one or more words, which
may be marked as unsigned and may carry a size and a scale in parentheses.
The name decides the portable type; for bit fields and tiny integers the size
does too.
-/

namespace SqlAnywhere

/-- A column type as the catalog reports it. -/
structure ReportedType where
  /-- The name, in lower case, its words joined by single spaces. -/
  name : Text
  size : Option Int64
  scale : Option Int64
  unsigned : Bool
deriving DecidableEq

/-- What is worth noting about the text of a reported type. -/
inductive TypeRemark where
  | unrecognized
  | malformedSize
  | malformedScale
deriving DecidableEq

/-- The word that marks a number type as unsigned. -/
def unsignedWord : Text := "unsigned".toList

/-- Words without a leading mark for unsigned. -/
def dropUnsigned : List Text → List Text
  | word :: words => if word = unsignedWord then words else word :: words
  | [] => []

/--
The words of a type name or of a default, in lower case and without a leading
mark for unsigned.
-/
def plainWords (text : Text) : List Text :=
  dropUnsigned (Text.words (Text.lower text))

/-- The plain words of a text, joined by single spaces. -/
def plainName (text : Text) : Text :=
  [' '].intercalate (plainWords text)

namespace PortableType

/-- The portable types of the names that the server has. -/
def vocabulary : List (Text × PortableType) :=
  [("bigint".toList, .bigInt),
    ("numeric".toList, .decimal),
    ("decimal".toList, .decimal),
    ("bit".toList, .smallInt),
    ("smallint".toList, .smallInt),
    ("tinyint".toList, .smallInt),
    ("integer".toList, .integer),
    ("int".toList, .integer),
    ("money".toList, .money),
    ("smallmoney".toList, .money),
    ("float".toList, .float),
    ("real".toList, .float),
    ("double".toList, .double),
    ("double precision".toList, .double),
    ("date".toList, .date),
    ("datetime".toList, .dateTime),
    ("smalldatetime".toList, .dateTime),
    ("timestamp".toList, .timestamp),
    ("time".toList, .time),
    ("char".toList, .char),
    ("nchar".toList, .char),
    ("varchar".toList, .varchar),
    ("nvarchar".toList, .string),
    ("uniqueidentifier".toList, .string),
    ("uniqueidentifierstr".toList, .string),
    ("text".toList, .text),
    ("ntext".toList, .text),
    ("long varchar".toList, .text),
    ("long nvarchar".toList, .text),
    ("xml".toList, .text),
    ("binary".toList, .binary),
    ("varbinary".toList, .binary),
    ("long binary".toList, .binary),
    ("image".toList, .binary)]

/-- The portable type of a name that the server has. -/
def ofPlainName? (name : Text) : Option PortableType :=
  vocabulary.lookup name

/--
The portable type of a type name: that of the whole name, else that of its
first word, else a string.
-/
def ofTypeName (text : Text) : PortableType :=
  let words := plainWords text
  let whole := ofPlainName? ([' '].intercalate words)
  let first := words.head?.bind ofPlainName?
  (whole.or first).getD .string

end PortableType

namespace ReportedType

/-- The precision of a numeric type is its size. -/
def precision (reported : ReportedType) : Option Int64 :=
  reported.size

/-- Characters that a word of a type name may begin with. -/
def isNameStart (character : Char) : Bool :=
  foldsToLetter character || character = '_'

/-- Characters that a word of a type name may hold. -/
def isNamePart (character : Char) : Bool :=
  isNameStart character || character.isDigit

/-- Whether a word may belong to a type name. -/
def isNameWord : Text → Bool
  | [] => false
  | character :: _ => isNameStart character

/--
The words of a name without a leading mark for unsigned that another word
follows.
-/
def dropUnsignedMark : List Text → List Text
  | word :: next :: words =>
      if Text.dropKeyword? unsignedWord word = some [] then
        next :: words
      else
        word :: next :: words
  | words => words

/--
What a text holds at its start: the words of a type name, and the rest after
them and the blanks around them.
-/
def nameWords (text : Text) : List Text × Text :=
  let inName (character : Char) := isNamePart character || isBlank character
  let candidates := Text.words (text.takeWhile inName)
  let words := candidates.takeWhile isNameWord
  if words.length = candidates.length then
    (words, text.dropWhile inName)
  else
    (words, [])

/--
What stands between an opening parenthesis at the start of a text and the
first closing one.
-/
def argument? : Text → Option Text
  | '(' :: rest => if ')' ∈ rest then some (rest.takeWhile (· ≠ ')')) else none
  | _ => none

/--
The size and the scale that an argument gives, and what is wrong with it.
-/
def readArgument (argument : Text) :
    Option Int64 × Option Int64 × Option TypeRemark :=
  let numbers := (argument.splitOn ',').map fun part =>
    Numeral.readInt64? (Text.trim part)
  match numbers with
  | some size :: some scale :: _ => (some size, some scale, none)
  | some size :: none :: _ => (some size, none, some .malformedScale)
  | [some size] => (some size, none, none)
  | _ => (none, none, some .malformedSize)

/--
A reported type read from its text, with what is worth noting about the text.
-/
def read (text : Text) : ReportedType × Option TypeRemark :=
  let unsigned := Text.hasFragment unsignedWord (Text.lower text)
  match nameWords text with
  | ([], _) =>
      (⟨[], none, none, unsigned⟩, some .unrecognized)
  | (words, rest) =>
      let lowered := (dropUnsignedMark words).map Text.lower
      let name := [' '].intercalate (dropUnsigned lowered)
      match argument? rest with
      | none => (⟨name, none, none, unsigned⟩, none)
      | some argument =>
          let (size, scale, remark) := readArgument argument
          (⟨name, size, scale, unsigned⟩, remark)

/--
A reported type read from its text; a text that is no type has no name and no
size.
-/
def ofText (text : Text) : ReportedType :=
  (read text).1

/--
The portable type of a reported one.

A bit field or a tiny integer of size one is a truth value, and a bit field
of at least the width of an integer is an integer.
-/
def portable (reported : ReportedType) : PortableType :=
  let leading := reported.name.takeWhile (· ≠ ' ')
  let isBit := leading = "bit".toList
  let isTiny := leading = "tinyint".toList
  match reported.size with
  | some size =>
      if (isTiny ∨ isBit) ∧ size = 1 then .boolean
      else if isBit ∧ 32 < size then .bigInt
      else if isBit ∧ size = 32 then .integer
      else .ofTypeName reported.name
  | none => .ofTypeName reported.name

end ReportedType

end SqlAnywhere
