import Mathlib.Data.List.Forall2
import SqlAnywhere.Catalog.Loader
import SqlAnywhere.Proofs.KeyLayouts

/-!
# Stored catalogs

A catalog as a list of tables, and a server that answers from it in the layout
of a family: with lists of columns or with single columns for the foreign keys,
and with the sequences behind columns in the latest family alone.
-/

namespace SqlAnywhere

/-! ## What is stored -/

/-- A column that a catalog stores. -/
structure StoredColumn where
  name : Text
  typeName : Text
  width : Option Int64 := none
  scale : Option Int64 := none
  nullable : Bool := false
  default : Option Text := none
  sequence : Option Text := none

/-- A table that a catalog stores. -/
structure StoredTable where
  owner : Text
  name : Text
  primaryKey : List Text
  columns : List StoredColumn
  foreignKeys : List NumberedKey := []

/-- The tables that a server knows. -/
abbrev StoredCatalog := List StoredTable

/-! ## Rows in the layout of a family -/

namespace Value

/-- The value of a text that may be missing. -/
def ofText? : Option Text → Value
  | none => .null
  | some letters => .text letters

/-- The value of an integer that may be missing. -/
def ofInt64? : Option Int64 → Value
  | none => .null
  | some number => .integer number

/-- The letter that the catalog writes for yes or no. -/
def ofFlag (flag : Bool) : Value :=
  .text (if flag then "Y" else "N").toList

end Value

namespace StoredColumn

/-- The sequence behind a column, as far as a family shows it. -/
def shownSequence (family : ServerFamily) (column : StoredColumn) :
    Option Text :=
  match family with
  | .v9 | .v11 => none
  | .v12 => column.sequence

/--
The row about the column in a place of a table, in the layout of a family.
-/
def row (family : ServerFamily) (primaryKey : List Text) (place : Nat)
    (column : StoredColumn) : Row :=
  [("column_id".toList, .integer (.ofNat (place + 1))),
    ("column_name".toList, .text column.name),
    ("base_type".toList, .text column.typeName),
    ("width".toList, .ofInt64? column.width),
    ("scale".toList, .ofInt64? column.scale),
    ("nulls".toList, .ofFlag column.nullable),
    ("unique".toList, .ofFlag false),
    ("pkey".toList, .ofFlag (primaryKey.any (· = column.name))),
    ("column_type".toList, .text "R".toList),
    ("default".toList, .ofText? column.default),
    ("sequence_name".toList, .ofText? (column.shownSequence family)),
    ("remarks".toList, .null)]

end StoredColumn

namespace StoredTable

/-- The rows about the primary key of a table. -/
def primaryKeyRows (table : StoredTable) : List Row :=
  table.primaryKey.map fun name => [("field_name".toList, .text name)]

/-- The rows about the columns of a table in the layout of a family. -/
def columnRows (family : ServerFamily) (table : StoredTable) : List Row :=
  table.columns.mapIdx (StoredColumn.row family table.primaryKey)

/-- The rows about the foreign keys of a table in the layout of a family. -/
def foreignKeyRows (family : ServerFamily) (table : StoredTable) : List Row :=
  match family.foreignKeyGrain with
  | .wholeKey => table.foreignKeys.map NumberedKey.wholeRow
  | .keyColumn => NumberedKey.pairRows table.foreignKeys

end StoredTable

/-! ## A server with a catalog -/

/-- A server that gives rows to one call, and answers all others as before. -/
def Server.answering (server : Server) (call : Call) (rows : List Row) :
    Server :=
  fun past asked => if asked = call then .ok rows else server past asked

namespace StoredCatalog

/-- The table with a name, up to ASCII case. -/
def find? (catalog : StoredCatalog) (owner name : Text) : Option StoredTable :=
  List.find?
    (fun table =>
      Text.sameLetters table.name name && Text.sameLetters table.owner owner)
    catalog

/-- The number of tables with a bare name, up to ASCII case. -/
def ownerCount (catalog : StoredCatalog) (name : Text) : Int64 :=
  .ofNat (catalog.countP fun table => Text.sameLetters table.name name)

/-- The value of a parameter of a call. -/
def parameter (call : Call) (name : Text) : Except QueryError Text :=
  match call.parameters.lookup name with
  | some value => .ok value
  | none => .error (.unboundParameter name)

/--
The rows about the table that a call names; there are none if there is no
such table.
-/
def answerAbout (catalog : StoredCatalog) (call : Call)
    (rows : StoredTable → List Row) : Answer := do
  let name ← parameter call Call.tableParameter
  let owner ← parameter call Call.ownerParameter
  return (catalog.find? owner name).elim [] rows

/-- The refusal of a statement. -/
def refusal (reason : String) : QueryError :=
  .unexpectedAnswer (.described reason.toList)

/--
A server of a family that answers what a load asks from a catalog.  It
refuses the questions for other families and all other statements.
-/
def server (catalog : StoredCatalog) (family : ServerFamily) : Server :=
  fun _ call =>
    let ofFamily (asked : ServerFamily) (answer : Answer) : Answer :=
      if asked = family then answer
      else .error (refusal "catalog query of another release")
    match call.query with
    | .ownerCount => do
        let name ← parameter call Call.tableParameter
        return [[("cnt".toList, .integer (catalog.ownerCount name))]]
    | .primaryKeys asked =>
        ofFamily asked (catalog.answerAbout call StoredTable.primaryKeyRows)
    | .columns asked =>
        ofFamily asked (catalog.answerAbout call (StoredTable.columnRows family))
    | .foreignKeys asked =>
        ofFamily asked
          (catalog.answerAbout call (StoredTable.foreignKeyRows family))
    | .version | .tableNames _ | .greatestKey _ _ _ =>
        .error (refusal "unknown statement")

variable (catalog : StoredCatalog) (family : ServerFamily) (past : List Call)

@[simp]
theorem server_ownerCount (name : Text) :
    catalog.server family past (.ownerCount name) =
      .ok [[("cnt".toList, .integer (catalog.ownerCount name))]] := rfl

@[simp]
theorem server_primaryKeys (name : TableName) :
    catalog.server family past (Loader.callAbout .primaryKeys family name) =
      .ok ((catalog.find? name.owner name.name).elim []
        StoredTable.primaryKeyRows) :=
  if_pos rfl

@[simp]
theorem server_columns (name : TableName) :
    catalog.server family past (Loader.callAbout .columns family name) =
      .ok ((catalog.find? name.owner name.name).elim []
        (StoredTable.columnRows family)) :=
  if_pos rfl

@[simp]
theorem server_foreignKeys (name : TableName) :
    catalog.server family past (Loader.callAbout .foreignKeys family name) =
      .ok ((catalog.find? name.owner name.name).elim []
        (StoredTable.foreignKeyRows family)) :=
  if_pos rfl

end StoredCatalog

end SqlAnywhere
