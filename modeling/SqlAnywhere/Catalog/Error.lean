import SqlAnywhere.Query.Error

/-!
# Failures of the catalog

Loading from the catalog fails because the server is not a supported one,
because a name without an owner is ambiguous, or because a query fails.  While
a table is loaded, the failure of a query names the table.
-/

namespace SqlAnywhere

/-- Why the catalog gave no result. -/
inductive CatalogError where
  | unsupportedVersion (version : Text)
  | ambiguousName (name : Text) (owners : Int64)
  /-- A query for a table failed. -/
  | query (table : Text) (error : QueryError)
  /-- A row about a table cannot be read. -/
  | malformedRow (table : Text) (fault : RowFault)
  /-- A query that is not for one table failed. -/
  | connection (error : QueryError)

namespace CatalogError

/-- The failure of a query while a table is loaded. -/
def ofTable (table : Text) : QueryError → CatalogError
  | .malformedRow fault => .malformedRow table fault
  | error => .query table error

/-- The failure of the catalog, in words. -/
def message : CatalogError → Text
  | .unsupportedVersion version =>
      "Server version ".toList ++ Text.quoted version ++
        " is not supported".toList
  | .ambiguousName name owners =>
      "Table name ".toList ++ Text.quoted name ++ " is owned by ".toList ++
        Numeral.ofInt64 owners ++
        " users, qualify it with the owner".toList
  | .query table error =>
      "Catalog query for table ".toList ++ Text.quoted table ++
        " failed: ".toList ++ error.message
  | .malformedRow table fault =>
      "Malformed catalog row for table ".toList ++ Text.quoted table ++
        ": ".toList ++ fault.reason
  | .connection error => error.message

end CatalogError

end SqlAnywhere
