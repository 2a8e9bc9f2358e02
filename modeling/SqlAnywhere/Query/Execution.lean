import SqlAnywhere.Catalog.Program

/-!
# Executing queries on a database

A connection binds the parameters of a query before anything else happens,
runs the bound statement, and decodes the rows that the database returns.  The
database has values of a kind that the catalog does not know; a row with one
cannot be decoded.
-/

namespace SqlAnywhere

/-- A value as a database returns it. -/
inductive StoredValue where
  | null
  | integer (value : Int64)
  | real (value : Float)
  | text (value : Text)
  | blob (bytes : List UInt8)

/-- A row as a database returns it. -/
abbrev StoredRow := List (Text × StoredValue)

namespace Execution

variable {Memory : Type}

/-- The value that a stored one is decoded as. -/
def decode? : StoredValue → Option Value
  | .null => some .null
  | .integer value => some (.integer value)
  | .real value => some (.float value)
  | .text value => some (.text value)
  | .blob _ => none

/-- A row decoded column by column. -/
def decodeRow (row : StoredRow) : Except QueryError Row :=
  row.mapM fun cell =>
    match decode? cell.2 with
    | some value => .ok (cell.1, value)
    | none => .error (.malformedRow (.undecodable cell.1))

/-- The note about a query that is about to run. -/
def runMessage (bound : BoundStatement) : Text :=
  "Executing catalog query with ".toList ++
    Numeral.ofNat bound.values.length ++ " bound parameter(s)".toList

/--
The rows of a statement with values for its parameters, by a way to run a
bound statement.
-/
def rows (database : BoundStatement → Except QueryError (List StoredRow))
    (statement : Text) (parameters : List Parameter) :
    Program Memory QueryError (List Row) := do
  let bound ← Program.ofExcept (BoundStatement.bind statement parameters)
  Program.log .debug (runMessage bound)
  let stored ← Program.ofExcept (database bound)
  Program.ofExcept (stored.mapM decodeRow)

/-- The first value of the first row of a statement. -/
def scalar (database : BoundStatement → Except QueryError (List StoredRow))
    (statement : Text) (parameters : List Parameter) :
    Program Memory QueryError Value := do
  let rows ← rows database statement parameters
  Program.ofExcept (Program.scalarOf rows)

end Execution

end SqlAnywhere
