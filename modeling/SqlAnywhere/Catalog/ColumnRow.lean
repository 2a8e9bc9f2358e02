import SqlAnywhere.Catalog.Table

/-!
# Column rows

A row about a column is read before the table's primary key is known, and
described as a column under that key.  The width of the row serves where the
type itself has no size, and a column that is part of the key or generated has
no default.
-/

namespace SqlAnywhere

/-- What a row of the catalog holds about a column. -/
structure ColumnRow where
  name : Text
  typeName : Text
  width : Option Int64
  scale : Option Int64
  nullable : Bool
  unique : Bool
  rawDefault : Option Text
  sequence : Option Text
  comment : Option Text
deriving DecidableEq

namespace ColumnRow

/-- Whether a default is the word that the catalog writes for none. -/
def isNullWord (raw : Text) : Bool :=
  Text.sameLetters (Text.trim raw) "(NULL)".toList

/-- A name without the blanks around it, unless nothing else is left. -/
def nonBlank? (text : Text) : Option Text :=
  let name := Text.trim text
  if name.isEmpty then none else some name

/-- A column row read from a row of the catalog. -/
def ofRow (row : Row) : Except QueryError ColumnRow := do
  let rawDefault ← Row.optionalText row "default".toList
  let name ← Row.trimmedText row "column_name".toList
  let typeName ← Row.trimmedText row "base_type".toList
  let width ← Row.optionalInteger row "width".toList
  let scale ← Row.optionalInteger row "scale".toList
  let nullable ← Row.flag row "nulls".toList
  let unique ← Row.flag row "unique".toList
  let sequence ← Row.optionalText row "sequence_name".toList
  let comment ← Row.optionalText row "remarks".toList
  return {
    name
    typeName
    width
    scale
    nullable
    unique
    rawDefault := rawDefault.filter (!isNullWord ·)
    sequence := sequence.bind nonBlank?
    comment }

/-- Whether the server generates the values of a column. -/
def isGenerated (row : ColumnRow) : Bool :=
  row.sequence.isSome || row.rawDefault.any ColumnDefault.generatesKeys

/-- Whether a column is part of a primary key. -/
def isInKey (primaryKey : List Text) (row : ColumnRow) : Bool :=
  primaryKey.any fun key => Text.sameLetters key row.name

/-- Types whose default may be the current time without being a value. -/
def stampsTime : PortableType → Bool
  | .timestamp | .dateTime => true
  | _ => false

/-- Types whose precision is the width of the column. -/
def hasWidthAsPrecision : PortableType → Bool
  | .decimal | .money => true
  | _ => false

/-- The default of a column of a type, if it is a value or an expression. -/
def default? (primaryKey : List Text) (portable : PortableType)
    (row : ColumnRow) : Option ColumnDefault :=
  row.rawDefault.bind fun raw =>
    if row.isGenerated || row.isInKey primaryKey then
      none
    else if stampsTime portable && ColumnDefault.isCurrentTime raw then
      none
    else
      ColumnDefault.ofRaw portable raw

/-- The column that a row describes under a primary key. -/
def toColumn (primaryKey : List Text) (row : ColumnRow) : Column :=
  let reported := ReportedType.ofText row.typeName
  let portable := reported.portable
  let widthAsPrecision :=
    if hasWidthAsPrecision portable then row.width else none
  { name := row.name
    typeName := row.typeName
    portable
    size := reported.size.or row.width
    precision := reported.precision.or widthAsPrecision
    scale := reported.scale.or row.scale
    nullable := row.nullable
    unique := row.unique
    inPrimaryKey := row.isInKey primaryKey
    generated := row.isGenerated
    unsigned := reported.unsigned
    rawDefault := row.rawDefault
    default := row.default? primaryKey portable
    sequence := row.sequence
    comment := row.comment }

end ColumnRow

end SqlAnywhere
