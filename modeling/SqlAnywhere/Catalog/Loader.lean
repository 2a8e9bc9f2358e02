import SqlAnywhere.Catalog.ColumnRow
import SqlAnywhere.Catalog.Error
import SqlAnywhere.Catalog.Program

/-!
# Loading from the catalog

A table is loaded in stages: the number of owners where the name has none, the
primary key, the columns, and the foreign keys.  Each stage starts after the
one before it.  A table whose columns cannot be read counts as one that does
not exist.
-/

namespace SqlAnywhere.Loader

variable {Memory : Type}

/-- Asks for the number of owners of a table with a bare name. -/
def ownerCount (name : Text) : Program Memory QueryError Int64 := do
  let count ← Program.scalar (.ownerCount name)
  match count.toInt64? with
  | none => .fail (.unexpectedAnswer (.ownerCount name count))
  | some owners =>
      Program.log .debug
        ("Table ".toList ++ Text.quoted name ++ " has ".toList ++
          Numeral.ofInt64 owners ++ " owner(s)".toList)
      return owners

/-- Refuses a name without an owner that more than one owner has. -/
def checkOwners (table : TableName) : Program Memory CatalogError Unit := do
  let owners ←
    (ownerCount table.name).mapFailure (CatalogError.ofTable table.fullName)
  if 1 < owners then
    .fail (.ambiguousName table.name owners)
  else
    return ()

/-- A question about a table in the catalog of a family. -/
def callAbout (query : ServerFamily → CatalogQuery) (family : ServerFamily)
    (table : TableName) : Call :=
  .aboutTable (query family) table.owner table.name

/-- Asks for the columns of the primary key of a table. -/
def primaryKey (family : ServerFamily) (table : TableName) :
    Program Memory QueryError (List Text) := do
  let rows ← Program.rows (callAbout .primaryKeys family table)
  Program.ofExcept
    (rows.mapM fun row => Row.trimmedText row "field_name".toList)

/-- The note about the text of a column type. -/
def remarkMessage (typeName : Text) : TypeRemark → Text
  | .unrecognized =>
      "Unrecognized physical type ".toList ++ Text.quoted typeName ++
        ", treating it as a string".toList
  | .malformedSize =>
      "Ignoring malformed size in physical type ".toList ++
        Text.quoted typeName
  | .malformedScale =>
      "Ignoring malformed scale in physical type ".toList ++
        Text.quoted typeName

/-- Notes what is worth noting about the text of a column type. -/
def noteType (typeName : Text) : Program Memory QueryError Unit :=
  match (ReportedType.read typeName).2 with
  | none => return ()
  | some remark => Program.log .debug (remarkMessage typeName remark)

/--
Reads the columns of a table from their rows, up to the first row that cannot
be read.
-/
def readColumns (primaryKey : List Text) :
    List Row → Program Memory QueryError (List Column)
  | [] => return []
  | row :: rows => do
      let first ← Program.ofExcept (ColumnRow.ofRow row)
      noteType first.typeName
      let columns ← readColumns primaryKey rows
      return first.toColumn primaryKey :: columns

/-- Asks for the columns of a table. -/
def columns (family : ServerFamily) (table : TableName)
    (primaryKey : List Text) : Program Memory QueryError (List Column) := do
  let rows ← Program.rows (callAbout .columns family table)
  readColumns primaryKey rows

/-- Asks for the foreign keys of a table. -/
def foreignKeys (family : ServerFamily) (table : TableName) :
    Program Memory QueryError (List ForeignKey) := do
  let rows ← Program.rows (callAbout .foreignKeys family table)
  Program.ofExcept (ForeignKey.ofRows family.foreignKeyGrain rows)

/-- The note about columns that cannot be read. -/
def unreadableMessage (table : TableName) (error : QueryError) : Text :=
  "Couldn't load the columns of table ".toList ++
    Text.quoted table.fullName ++ ": ".toList ++ error.message

/-- The note about a table without columns. -/
def emptyMessage (table : TableName) : Text :=
  "No columns found for table ".toList ++ Text.quoted table.fullName

/-- The note about a loaded table. -/
def loadedMessage (table : Table) : Text :=
  "Loaded table ".toList ++ Text.quoted table.name.fullName ++ ": ".toList ++
    Numeral.ofNat table.columns.length ++ " column(s), ".toList ++
    Numeral.ofNat table.foreignKeys.length ++ " foreign key(s)".toList

/-- Completes a table whose columns are known with its foreign keys. -/
def complete (family : ServerFamily) (name : TableName)
    (primaryKey : List Text) (columns : List Column) :
    Program Memory CatalogError Table := do
  let keys ← (foreignKeys family name).mapFailure
    (CatalogError.ofTable name.fullName)
  let table := Table.ofColumns name primaryKey columns keys
  Program.log .debug (loadedMessage table)
  return table

/-- Loads a table whose name is settled. -/
def describe (family : ServerFamily) (name : TableName) :
    Program Memory CatalogError (Option Table) := do
  let key ← (primaryKey family name).mapFailure
    (CatalogError.ofTable name.fullName)
  match ← (columns family name key).attempt with
  | .error error =>
      Program.log .debug (unreadableMessage name error)
      return none
  | .ok [] =>
      Program.log .debug (emptyMessage name)
      return none
  | .ok (first :: others) =>
      return some (← complete family name key (first :: others))

/-- Loads the table that a reference names, or nothing if there is none. -/
def load (family : ServerFamily) (defaultOwner reference : Text) :
    Program Memory CatalogError (Option Table) := do
  let name := TableName.resolve reference defaultOwner
  if (TableName.split reference).1.isNone then
    checkOwners name
  describe family name

/--
Asks for the bare names of the tables and views of an owner, the default one
if it is blank.
-/
def tableNames (family : ServerFamily) (defaultOwner owner : Text) :
    Program Memory CatalogError (List Text) := do
  let trimmed := Text.trim owner
  let owner := if trimmed.isEmpty then defaultOwner else trimmed
  let rows ←
    (Program.rows (.tableNames family owner)).mapFailure .connection
  let names ← Program.ofExcept
    ((rows.mapM fun row => Row.trimmedText row "table_name".toList).mapError
      .connection)
  Program.log .debug
    ("Schema ".toList ++ Text.quoted owner ++ " has ".toList ++
      Numeral.ofNat names.length ++ " table(s)".toList)
  return names

end SqlAnywhere.Loader
