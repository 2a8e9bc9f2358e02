import SqlAnywhere.Query.Error
import SqlAnywhere.Text.LetterCase

/-!
# Catalog rows

A row is a list of named values.  The server does not keep the case of the
names that a query gives its columns, so a column is found in any ASCII case;
of several columns with one name the first is meant.
-/

namespace SqlAnywhere

/-- A row of an answer: its values in order, under their column names. -/
abbrev Row := List (Text × Value)

namespace Row

/-- The value of a column. -/
def get? (row : Row) (column : Text) : Option Value :=
  (row.find? fun cell => Text.sameLetters cell.1 column).map Prod.snd

/-- The value of the first column. -/
def first? (row : Row) : Option Value :=
  row.head?.map Prod.snd

/--
A row in which a column has a value; a column that it lacks is added at its
end.
-/
def set (row : Row) (column : Text) (value : Value) : Row :=
  match row with
  | [] => [(column, value)]
  | (name, old) :: rest =>
      if Text.sameLetters name column then
        (name, value) :: rest
      else
        (name, old) :: set rest column value

/-- The value of a column that the row has to have. -/
def require (row : Row) (column : Text) : Except QueryError Value :=
  match get? row column with
  | some value => .ok value
  | none => .error (.malformedRow (.missingColumn column))

/-- The text of a column, or none if it is null. -/
def optionalText (row : Row) (column : Text) :
    Except QueryError (Option Text) :=
  (require row column).map Value.toText?

/-- The text of a column that is not null. -/
def text (row : Row) (column : Text) : Except QueryError Text := do
  match ← optionalText row column with
  | some value => .ok value
  | none => .error (.malformedRow (.nullColumn column))

/-- The integer of a column, or none if it is null. -/
def optionalInteger (row : Row) (column : Text) :
    Except QueryError (Option Int64) := do
  let value ← require row column
  if value.isNull then
    return none
  else
    match value.toInt64? with
    | some number => return some number
    | none => .error (.malformedRow (.nonInteger column value))

/-- The integer of a column that is not null. -/
def integer (row : Row) (column : Text) : Except QueryError Int64 := do
  match ← optionalInteger row column with
  | some number => .ok number
  | none => .error (.malformedRow (.notAnInteger column))

/-- The text of a column without the blanks around it. -/
def trimmedText (row : Row) (column : Text) : Except QueryError Text :=
  (text row column).map Text.trim

/-- Whether a column holds the letter that the catalog writes for yes. -/
def flag (row : Row) (column : Text) : Except QueryError Bool :=
  (optionalText row column).map fun value =>
    value.any fun letter => Text.sameLetters (Text.trim letter) "Y".toList

end Row

end SqlAnywhere
