import SqlAnywhere.Text.Basic

/-!
# Identifiers

The server quotes an identifier between brackets.  A name that holds an
opening bracket is taken to be quoted already, and one that holds an opening
parenthesis to be an expression; neither is quoted again.
-/

namespace SqlAnywhere.Identifier

/-- An identifier between brackets. -/
def quote (name : Text) : Text :=
  if '[' ∈ name then name else '[' :: name ++ [']']

/--
A column name without an owner between brackets; a star stands for all
columns.
-/
def quoteColumnPart (name : Text) : Text :=
  if name = ['*'] then name else quote name

/-- A table name whose parts between dots are quoted one by one. -/
def quoteTable (name : Text) : Text :=
  if '(' ∈ name then
    name
  else
    ['.'].intercalate ((name.splitOn '.').map quote)

/-- A column name, after the name of its table if there is one. -/
def quoteColumn (name : Text) : Text :=
  if '(' ∈ name then
    name
  else
    match Text.splitLast? '.' name with
    | some (table, column) => quoteTable table ++ '.' :: quoteColumnPart column
    | none => quoteColumnPart name

/-- Whether a character quotes an identifier. -/
def isBracket (character : Char) : Bool :=
  character = '[' || character = ']'

/-- A name without any brackets. -/
def unquote (name : Text) : Text :=
  name.filter (!isBracket ·)

end SqlAnywhere.Identifier
