import SqlAnywhere.Sql.Identifier
import SqlAnywhere.Sql.LeadingSelect
import SqlAnywhere.Text.Numeral

/-!
# Order and row limits

The server limits the rows of a query by a clause after its leading SELECT:
TOP with the number of rows, and START AT with the position of the first one,
counted from one.  An order is appended to the query.  The server has no truth
values in a select list, so that the existence of rows is asked for as one or
zero.
-/

namespace SqlAnywhere

/-- One item of an order. -/
inductive OrderItem where
  | column (name : Text) (descending : Bool)
  /-- An expression that is written as it is. -/
  | expression (source : Text)
deriving DecidableEq

/-- How many rows of a query are wanted, and how many before them are not. -/
structure RowWindow where
  limit : Option UInt64
  offset : Option UInt64
deriving DecidableEq

namespace OrderItem

/-- The text of an item. -/
def toText : OrderItem → Text
  | .column name false => Identifier.quoteColumn name
  | .column name true => Identifier.quoteColumn name ++ " DESC".toList
  | .expression source => source

/-- The clause of an order; without items there is none. -/
def clause (items : List OrderItem) : Text :=
  if items.isEmpty then
    []
  else
    "ORDER BY ".toList ++ ", ".toList.intercalate (items.map toText)

end OrderItem

namespace RowWindow

/--
The position of the first row after an offset, at most the greatest number of
64 bits.
-/
def startPosition (offset : UInt64) : Nat :=
  min (offset.toNat + 1) (UInt64.size - 1)

/-- The clause for the start of a window; an offset of zero is no offset. -/
def startClause (offset : Option UInt64) : Option Text :=
  (offset.filter (0 < ·)).map fun offset =>
    " START AT ".toList ++ Numeral.ofNat (startPosition offset)

/-- The clause that limits the rows of a query to a window. -/
def clause? (window : RowWindow) : Option Text :=
  match window.limit, startClause window.offset with
  | none, none => none
  | some limit, start =>
      some (" TOP ".toList ++ Numeral.ofNat limit.toNat ++ start.getD [])
  | none, some start => some (" TOP ALL".toList ++ start)

end RowWindow

namespace Statement

/--
A statement with a clause after its leading SELECT.

A statement that does not lead with SELECT, or has a TOP there, is kept.
-/
def insertAfterSelect (clause statement : Text) : Text :=
  match LeadingSelect.rest? statement with
  | none => statement
  | some rest =>
      if LeadingSelect.hasTop rest then
        statement
      else
        statement.take (statement.length - rest.length) ++ clause ++ rest

/-- A statement limited to a window of its rows. -/
def limited (window : RowWindow) (statement : Text) : Text :=
  match window.clause? with
  | none => statement
  | some clause => insertAfterSelect clause statement

/-- A statement with an order after it. -/
def ordered (items : List OrderItem) (statement : Text) : Text :=
  match OrderItem.clause items with
  | [] => statement
  | clause => statement ++ ' ' :: clause

/-- A page of the rows of a statement in an order. -/
def page (items : List OrderItem) (window : RowWindow) (statement : Text) :
    Text :=
  limited window (ordered items statement)

/-- The statement that asks whether another one has rows. -/
def existence (statement : Text) : Text :=
  "SELECT IF EXISTS(".toList ++ statement ++ ") THEN 1 ELSE 0 ENDIF".toList

end Statement

end SqlAnywhere
