import SqlAnywhere.ColumnType.Specification
import SqlAnywhere.Sql.Identifier
import SqlAnywhere.Text.Numeral

/-!
# Maintenance statements

Statements that rename tables and columns, change the type of a column and
restart the generator of keys.
-/

namespace SqlAnywhere

/-- What gives the rows of a table their keys. -/
inductive KeyGenerator where
  /-- The counter of the key column itself. -/
  | identity
  | sequence (name : Text)
deriving DecidableEq

namespace Maintenance

/-- The statement that renames a table. -/
def renameTable (table newName : Text) : Text :=
  "ALTER TABLE ".toList ++ Identifier.quoteTable table ++
    " RENAME ".toList ++ Identifier.quoteTable newName

/-- The statement that renames a column. -/
def renameColumn (table column newName : Text) : Text :=
  "ALTER TABLE ".toList ++ Identifier.quoteTable table ++
    " RENAME ".toList ++ Identifier.quoteColumn column ++
    " TO ".toList ++ Identifier.quoteColumn newName

/-- The statement that gives a column the type of a specification. -/
def alterColumn (table column specification : Text) : Text :=
  "ALTER TABLE ".toList ++ Identifier.quoteTable table ++
    " MODIFY ".toList ++ Identifier.quoteColumn column ++
    ' ' :: Specification.toPhysical specification

/-- The literal of a name without its brackets. -/
def nameLiteral (name : Text) : Text :=
  '\'' :: Text.doubled '\'' (Identifier.unquote name) ++ ['\'']

/-- The integer before another one, if there is one. -/
def predecessor (number : Int64) : Int64 :=
  if number = Int64.minValue then number else number - 1

/--
The statement after which a table's key generator gives a value next.

The counter of a key column is set to the last value that was used.
-/
def restartKeys (owner table : Text) (generator : KeyGenerator)
    (next : Int64) : Text :=
  match generator with
  | .identity =>
      "CALL sa_reset_identity(".toList ++ nameLiteral table ++ ", ".toList ++
        nameLiteral owner ++ ", ".toList ++
        Numeral.ofInt64 (predecessor next) ++ ")".toList
  | .sequence name =>
      "ALTER SEQUENCE ".toList ++ Identifier.quoteTable name ++
        " RESTART WITH ".toList ++ Numeral.ofInt64 next

end Maintenance

end SqlAnywhere
