import SqlAnywhere.Sql.Identifier
import SqlAnywhere.Text.Blank
import SqlAnywhere.Text.LetterCase
import SqlAnywhere.Text.UpperCase

/-!
# Table names

A table belongs to an owner.  A reference to it gives the bare name, or the
owner and the name with a dot between them, with or without brackets; the
server has no level above owners, so that earlier parts mean nothing.  A
reference without an owner is resolved to the default owner.
-/

namespace SqlAnywhere

/-- A table name with its owner. -/
structure TableName where
  owner : Text
  name : Text
  /-- The bare name, after the owner where that is not the default one. -/
  fullName : Text
deriving DecidableEq

namespace TableName

/--
The owner that the last but one part of a reference names, if it is not
blank.
-/
def ownerOfPart? (part : Text) : Option Text :=
  let owner := Text.trim part
  if owner.isEmpty then none else some owner

/-- The owner and the bare name in a reference. -/
def split (reference : Text) : Option Text × Text :=
  match ((Identifier.unquote reference).splitOn '.').reverse with
  | [] => (none, [])
  | [name] => (none, Text.trim name)
  | name :: owner :: _ => (ownerOfPart? owner, Text.trim name)

/-- The table that a reference names under a default owner. -/
def resolve (reference defaultOwner : Text) : TableName :=
  match split reference with
  | (none, name) => ⟨defaultOwner, name, name⟩
  | (some owner, name) =>
      if Text.sameLetters owner defaultOwner then
        ⟨owner, name, name⟩
      else
        ⟨owner, name, owner ++ '.' :: name⟩

/--
The key of a table: owner and name in upper case, as the catalog compares
them.
-/
def key (table : TableName) : Text :=
  Text.upper (table.owner ++ '.' :: table.name)

/-- Whether two names have one owner and one bare name, up to ASCII case. -/
def sameTable (first second : TableName) : Bool :=
  Text.sameLetters first.owner second.owner &&
    Text.sameLetters first.name second.name

/-- Whether two references name one table under a default owner. -/
def sameReference (first second defaultOwner : Text) : Bool :=
  sameTable (resolve first defaultOwner) (resolve second defaultOwner)

end TableName

end SqlAnywhere
