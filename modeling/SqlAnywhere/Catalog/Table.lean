import SqlAnywhere.Catalog.ForeignKey
import SqlAnywhere.Catalog.TableName
import SqlAnywhere.ColumnType.Default
import SqlAnywhere.Sql.Maintenance

/-!
# Tables

The description of a table: its name, its primary key, its columns in the
order of the catalog, its foreign keys, and what generates its keys.
-/

namespace SqlAnywhere

/-- A column of a table. -/
structure Column where
  name : Text
  /-- The type as the catalog reports it. -/
  typeName : Text
  portable : PortableType
  size : Option Int64
  precision : Option Int64
  scale : Option Int64
  nullable : Bool
  /-- Whether the column alone has a unique index. -/
  unique : Bool
  inPrimaryKey : Bool
  /-- Whether the server generates the values of the column. -/
  generated : Bool
  unsigned : Bool
  /-- The default as the catalog reports it. -/
  rawDefault : Option Text
  default : Option ColumnDefault
  /-- The sequence behind the default. -/
  sequence : Option Text
  comment : Option Text
deriving BEq

/-- A table as the catalog describes it. -/
structure Table where
  name : TableName
  primaryKey : List Text
  columns : List Column
  foreignKeys : List ForeignKey
  generator : Option KeyGenerator

namespace Table

/-- The column with a name in exactly this case. -/
def columnNamed? (columns : List Column) (name : Text) : Option Column :=
  columns.find? (·.name = name)

/-- The column with a name, in this case before any other case. -/
def column? (table : Table) (name : Text) : Option Column :=
  (columnNamed? table.columns name).or
    (table.columns.find? fun column => Text.sameLetters column.name name)

/-- The names of the columns in order. -/
def columnNames (table : Table) : List Text :=
  table.columns.map Column.name

/--
Columns with a further one, which takes the place of a column of its name.
-/
def putColumn (columns : List Column) (column : Column) : List Column :=
  match columns with
  | [] => [column]
  | first :: rest =>
      if first.name = column.name then
        column :: rest
      else
        first :: putColumn rest column

/-- The key generator that a column of the primary key brings with it. -/
def generatorOf? (column : Column) : Option KeyGenerator :=
  if column.inPrimaryKey && column.generated then
    some (column.sequence.elim .identity .sequence)
  else
    none

/--
The key generator of a table: the one that its last generated key column
brings with it.
-/
def generatorOfColumns? (columns : List Column) : Option KeyGenerator :=
  (columns.filterMap generatorOf?).getLast?

/--
A table of columns in the order of the catalog; of columns with one name the
last is described, in the place of the first.
-/
def ofColumns (name : TableName) (primaryKey : List Text)
    (columns : List Column) (foreignKeys : List ForeignKey) : Table :=
  { name
    primaryKey
    columns := columns.foldl putColumn []
    foreignKeys
    generator := generatorOfColumns? columns }

/-- Whether two lists describe the same columns, in any order. -/
def sameColumns (first second : List Column) : Bool :=
  first.length == second.length &&
    first.all fun column => columnNamed? second column.name == some column

/--
Whether two tables are described alike, up to the order of their columns.
-/
def sameDescription (first second : Table) : Bool :=
  first.name == second.name && first.primaryKey == second.primaryKey &&
    sameColumns first.columns second.columns &&
    first.foreignKeys == second.foreignKeys &&
    first.generator == second.generator

end Table

end SqlAnywhere
