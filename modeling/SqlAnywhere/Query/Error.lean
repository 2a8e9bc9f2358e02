import SqlAnywhere.Query.Value
import SqlAnywhere.Text.Quoted

/-!
# Failures of a query

A query fails because the database refuses it, because a parameter of its text
has no value, because its answer is not what was asked for, or because a row
of the answer cannot be read.
-/

namespace SqlAnywhere

/-- Why a row cannot be read. -/
inductive RowFault where
  | missingColumn (column : Text)
  | nullColumn (column : Text)
  | notAnInteger (column : Text)
  | nonInteger (column : Text) (value : Value)
  | undecodable (column : Text)
  | unequalLists (localColumns referencedColumns : Text)
  /-- A fault that the connection describes in its own words. -/
  | described (reason : Text)

/-- Why an answer is not what was asked for. -/
inductive AnswerFault where
  | noRows
  | ownerCount (table : Text) (count : Value)
  /-- A fault that the connection describes in its own words. -/
  | described (reason : Text)

/-- Why a query failed. -/
inductive QueryError where
  /-- The database refused the query for the cause that it gives. -/
  | database (cause : Text)
  | unboundParameter (name : Text)
  | unexpectedAnswer (fault : AnswerFault)
  | malformedRow (fault : RowFault)

/-- What is wrong with a row, in words. -/
def RowFault.reason : RowFault → Text
  | .missingColumn column =>
      "column ".toList ++ Text.quoted column ++
        " missing from catalog row".toList
  | .nullColumn column =>
      "column ".toList ++ Text.quoted column ++ " is NULL".toList
  | .notAnInteger column =>
      "column ".toList ++ Text.quoted column ++ " is not an integer".toList
  | .nonInteger column value =>
      "column ".toList ++ Text.quoted column ++
        " holds non-integer value ".toList ++ value.display
  | .undecodable column =>
      "can't decode column ".toList ++ Text.quoted column
  | .unequalLists localColumns referencedColumns =>
      "foreign key column lists ".toList ++ Text.quoted localColumns ++
        " and ".toList ++ Text.quoted referencedColumns ++
        " differ in length".toList
  | .described reason => reason

/-- What is wrong with an answer, in words. -/
def AnswerFault.reason : AnswerFault → Text
  | .noRows => "scalar query returned no rows".toList
  | .ownerCount table count =>
      "owner count for ".toList ++ Text.quoted table ++
        " is not a number: ".toList ++ count.display
  | .described reason => reason

/-- The failure of a query, in words. -/
def QueryError.message : QueryError → Text
  | .database cause => "Internal SQL error: ".toList ++ cause
  | .unboundParameter name =>
      "Query parameter :".toList ++ name ++ " is not bound".toList
  | .unexpectedAnswer fault =>
      "Unexpected query result: ".toList ++ fault.reason
  | .malformedRow fault => "Malformed catalog row: ".toList ++ fault.reason

end SqlAnywhere
