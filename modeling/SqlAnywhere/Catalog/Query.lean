import SqlAnywhere.Catalog.QueryText
import SqlAnywhere.Catalog.ServerFamily
import SqlAnywhere.Query.Binding
import SqlAnywhere.Sql.Identifier

/-!
# Catalog queries

The questions that the library asks a server.  Each has a text, which depends
on the family of the server where the layout of the catalog does, and is
called with values for the parameters of that text.
-/

namespace SqlAnywhere

/-- A question to the server. -/
inductive CatalogQuery where
  | version
  | ownerCount
  | primaryKeys (family : ServerFamily)
  | columns (family : ServerFamily)
  | foreignKeys (family : ServerFamily)
  | tableNames (family : ServerFamily)
  /-- The greatest value of a key column. -/
  | greatestKey (owner table column : Text)
deriving DecidableEq

/-- What one row of an answer about foreign keys stands for. -/
inductive RowGrain where
  /-- A key, with two lists of columns. -/
  | wholeKey
  /-- One column of a key. -/
  | keyColumn
deriving DecidableEq

/-- What a row about foreign keys stands for in a family. -/
def ServerFamily.foreignKeyGrain : ServerFamily → RowGrain
  | .v9 => .wholeKey
  | .v11 | .v12 => .keyColumn

namespace CatalogQuery

/-- The statement that asks a question. -/
def text : CatalogQuery → Text
  | .version => QueryText.version
  | .ownerCount => QueryText.ownerCount
  | .primaryKeys .v9 => QueryText.primaryKeysV9
  | .primaryKeys .v11 | .primaryKeys .v12 => QueryText.primaryKeysV11
  | .columns .v9 => QueryText.columnsV9
  | .columns .v11 => QueryText.columnsV11
  | .columns .v12 => QueryText.columnsV12
  | .foreignKeys .v9 => QueryText.foreignKeysV9
  | .foreignKeys .v11 | .foreignKeys .v12 => QueryText.foreignKeysV11
  | .tableNames .v9 => QueryText.tableNamesV9
  | .tableNames .v11 | .tableNames .v12 => QueryText.tableNamesV11
  | .greatestKey owner table column =>
      "SELECT MAX(".toList ++ Identifier.quoteColumn column ++
        ") FROM ".toList ++ Identifier.quoteTable (owner ++ '.' :: table)

end CatalogQuery

/--
A question with the values of its parameters, as it is put to the server.
-/
structure Call where
  query : CatalogQuery
  parameters : List Parameter
deriving DecidableEq

namespace Call

/-- The name of the parameter for the table. -/
def tableParameter : Text := "tableName".toList

/-- The name of the parameter for the owner. -/
def ownerParameter : Text := "schemaName".toList

/-- The question for the version of the server. -/
def version : Call :=
  ⟨.version, []⟩

/-- The question for the number of owners of a bare name. -/
def ownerCount (name : Text) : Call :=
  ⟨.ownerCount, [(tableParameter, name)]⟩

/-- A question about one table. -/
def aboutTable (query : CatalogQuery) (owner name : Text) : Call :=
  ⟨query, [(tableParameter, name), (ownerParameter, owner)]⟩

/-- The question for the tables of an owner. -/
def tableNames (family : ServerFamily) (owner : Text) : Call :=
  ⟨.tableNames family, [(ownerParameter, owner)]⟩

/-- The question for the greatest value of a key column. -/
def greatestKey (owner table column : Text) : Call :=
  ⟨.greatestKey owner table column, []⟩

end Call

end SqlAnywhere
