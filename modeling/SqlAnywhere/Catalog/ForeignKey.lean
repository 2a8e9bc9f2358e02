import SqlAnywhere.Catalog.Query
import SqlAnywhere.Query.Row

/-!
# Foreign keys

The catalog answers about foreign keys with rows that hold the columns of a
key one by one or as lists.  A key is identified by its number and the table
that it refers to.  Keys are listed in the order of their first rows, and the
column pairs of a key in the order of the rows, each once.  A row that refers
to no table belongs to an index that is no foreign key.
-/

namespace SqlAnywhere

/-- A column of the table, and the column that it refers to. -/
abbrev ColumnPair := Text × Text

/-- A foreign key of a table. -/
structure ForeignKey where
  referencedTable : Text
  columns : List ColumnPair
deriving DecidableEq

namespace ForeignKey

/-- What tells the foreign keys of a table apart. -/
structure Identity where
  number : Option Text
  referencedTable : Text
deriving DecidableEq

/-- The names in a list with commas between them. -/
def listedNames (list : Text) : List Text :=
  ((list.splitOn ',').map Text.trim).filter (!·.isEmpty)

/-- The column pairs that a row holds. -/
def columnPairs (grain : RowGrain) (row : Row) :
    Except QueryError (List ColumnPair) := do
  let localText ← Row.text row "FK_COLUMN_NAME".toList
  let referencedText ← Row.text row "UQ_COLUMN_NAME".toList
  match grain with
  | .keyColumn => return [(Text.trim localText, Text.trim referencedText)]
  | .wholeKey =>
      let localNames := listedNames localText
      let referencedNames := listedNames referencedText
      if localNames.length = referencedNames.length then
        return localNames.zip referencedNames
      else
        throw (.malformedRow (.unequalLists localText referencedText))

/--
What a row adds to the foreign keys: column pairs of one key, or nothing.
-/
def readRow (grain : RowGrain) (row : Row) :
    Except QueryError (Option (Identity × List ColumnPair)) := do
  match ← Row.optionalText row "UQ_TABLE_NAME".toList with
  | none => return none
  | some table =>
      let number := (Row.get? row "foreign_key_id".toList).bind Value.toText?
      let pairs ← columnPairs grain row
      return some (⟨number, Text.trim table⟩, pairs)

/--
Column pairs followed by those of further ones that are not among them yet.
-/
def addPairs (columns pairs : List ColumnPair) : List ColumnPair :=
  pairs.foldl
    (fun columns pair => if pair ∈ columns then columns else columns ++ [pair])
    columns

/--
Keys with column pairs added to one of them, which is listed last if it is
new.
-/
def addToKey (identity : Identity) (pairs : List ColumnPair) :
    List (Identity × List ColumnPair) → List (Identity × List ColumnPair)
  | [] => [(identity, addPairs [] pairs)]
  | (known, columns) :: keys =>
      if known = identity then
        (known, addPairs columns pairs) :: keys
      else
        (known, columns) :: addToKey identity pairs keys

/-- The keys that a sequence of additions makes up. -/
def group (additions : List (Identity × List ColumnPair)) : List ForeignKey :=
  let keys := additions.foldl
    (fun keys addition => addToKey addition.1 addition.2 keys) []
  keys.map fun key => ⟨key.1.referencedTable, key.2⟩

/-- The foreign keys that the rows of an answer hold. -/
def ofRows (grain : RowGrain) (rows : List Row) :
    Except QueryError (List ForeignKey) := do
  let additions ← rows.mapM (readRow grain)
  return group (additions.filterMap id)

end ForeignKey

end SqlAnywhere
