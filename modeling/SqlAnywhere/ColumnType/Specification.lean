import SqlAnywhere.ColumnType.Portable
import SqlAnywhere.Text.Blank
import SqlAnywhere.Text.WordCharacter

/-!
# Type specifications

A column can be specified by a portable type name, with an argument in
parentheses and with modifiers after it.  The specification is written with
the server's name for the type; an argument takes the place of the default
one, and the modifiers are kept.
-/

namespace SqlAnywhere

/--
A type as the server declares it: a name, and an argument for the types that
take one.
-/
structure Declaration where
  name : Text
  argument : Option Text
deriving DecidableEq

namespace Declaration

/-- The text of a declaration. -/
def toText (declaration : Declaration) : Text :=
  match declaration.argument with
  | none => declaration.name
  | some argument => declaration.name ++ '(' :: argument ++ [')']

/-- A declaration with another argument, if its type takes one. -/
def withArgument (declaration : Declaration) (argument : Text) : Declaration :=
  ⟨declaration.name, declaration.argument.map fun _ => argument⟩

end Declaration

namespace PortableType

/-- The declaration that the server has for a portable type. -/
def declaration : PortableType → Declaration
  | .primaryKey | .unsignedPrimaryKey =>
      ⟨"int IDENTITY PRIMARY KEY".toList, none⟩
  | .bigPrimaryKey | .unsignedBigPrimaryKey =>
      ⟨"bigint IDENTITY PRIMARY KEY".toList, none⟩
  | .char => ⟨"nchar".toList, some "1".toList⟩
  | .varchar => ⟨"varchar".toList, some "255".toList⟩
  | .string => ⟨"nvarchar".toList, some "255".toList⟩
  | .text => ⟨"nvarchar".toList, some "32767".toList⟩
  | .tinyInt => ⟨"tinyint".toList, none⟩
  | .smallInt => ⟨"smallint".toList, none⟩
  | .integer => ⟨"int".toList, none⟩
  | .bigInt => ⟨"bigint".toList, none⟩
  | .float | .double => ⟨"float".toList, none⟩
  | .decimal => ⟨"decimal".toList, some "18,0".toList⟩
  | .dateTime => ⟨"datetime".toList, none⟩
  | .timestamp => ⟨"timestamp".toList, none⟩
  | .time => ⟨"time".toList, none⟩
  | .date => ⟨"date".toList, none⟩
  | .binary => ⟨"varbinary".toList, some "32767".toList⟩
  | .boolean => ⟨"bit".toList, none⟩
  | .money => ⟨"decimal".toList, some "19,2".toList⟩

end PortableType

namespace Specification

/--
The argument and the modifiers of a specification after its name.

The argument holds at least one character and ends at the first closing
parenthesis after it; neither it nor the modifiers go over a line.
-/
def sized? (rest : Text) : Option (Text × Text) :=
  match Text.trimStart rest with
  | '(' :: first :: inner =>
      if '\n' ∈ first :: inner ∨ ')' ∉ inner then
        none
      else
        some (first :: inner.takeWhile (· ≠ ')'),
          (inner.dropWhile (· ≠ ')')).drop 1)
  | _ => none

/--
Whether modifiers follow a name: at least one blank, and after the blanks no
further line.
-/
def isModified (rest : Text) : Bool :=
  match rest with
  | [] => false
  | character :: _ => isBlank character && !('\n' ∈ Text.trimStart rest)

/-- The server's type for a specification; a text that is none is kept. -/
def toPhysical (specification : Text) : Text :=
  let name := specification.takeWhile isWordCharacter
  let rest := specification.dropWhile isWordCharacter
  match PortableType.ofName? name with
  | none => specification
  | some portable =>
      let declared := portable.declaration
      match sized? rest with
      | some (argument, modifiers) =>
          (declared.withArgument argument).toText ++ modifiers
      | none =>
          if rest.isEmpty || isModified rest then
            declared.toText ++ rest
          else
            specification

end Specification

end SqlAnywhere
