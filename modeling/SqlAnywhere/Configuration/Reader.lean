import SqlAnywhere.Configuration.Basic
import SqlAnywhere.Toml.Document

/-!
# Reading configurations

The settings of a file form two groups, for the connection and for the memory
of tables; the second may be left out.  A group is a table, or a list of its
settings in order.  Other settings are ignored.
-/

namespace SqlAnywhere.Configuration

/-- What reading gives, unless the configuration is at fault. -/
abbrev Reading := Except ConfigurationError

/-- A setting taken for a text. -/
def readText (setting : Setting) : Reading Text :=
  match setting.toText? with
  | some value => .ok value
  | none => .error .wrongType

/-- A setting taken for a number. -/
def readNumber (setting : Setting) : Reading UInt64 :=
  match setting.toNumber? with
  | some value => .ok value
  | none => .error .wrongType

/-- A setting taken for a number of which the low 32 bits count. -/
def readWord (setting : Setting) : Reading UInt32 :=
  (readNumber setting).map UInt64.toUInt32

/-- A member of a table, if there is one. -/
def member? {Result : Type} (read : Setting → Reading Result)
    (members : Toml.Members) (name : String) : Reading (Option Result) :=
  match List.lookup name.toList members with
  | none => .ok none
  | some setting => (read setting).map some

/-- The connection that the members of a table describe. -/
def connectionOfTable (members : Toml.Members) : Reading ConnectionSettings := do
  let dsn ← member? readText members "dsn"
  let username ← member? readText members "username"
  let defaultOwner ← member? readText members "default_schema"
  let serverVersion ← member? readWord members "server_version"
  let maxConnections ← member? readWord members "max_connections"
  match dsn with
  | none => throw (.missingField "dsn".toList)
  | some dsn =>
      return {
        dsn
        username
        defaultOwner
        serverVersion
        maxConnections := maxConnections.getD defaultMaxConnections }

/-- An item of a list that a group needs. -/
def item {Result : Type} (read : Setting → Reading Result)
    (items : List Setting) (position : Nat) : Reading Result :=
  match items[position]? with
  | none =>
      throw (.shortGroup position "Connection with 5 elements".toList)
  | some setting => read setting

/--
The connection that the items of a list describe; the last one may be left
out.
-/
def connectionOfList (items : List Setting) : Reading ConnectionSettings := do
  let dsn ← item readText items 0
  let username ← item readText items 1
  let defaultOwner ← item readText items 2
  let serverVersion ← item readWord items 3
  let maxConnections ←
    match items[4]? with
    | none => pure defaultMaxConnections
    | some setting => readWord setting
  return {
    dsn
    username := some username
    defaultOwner := some defaultOwner
    serverVersion := some serverVersion
    maxConnections }

/-- The connection that a setting describes. -/
def readConnection : Setting → Reading ConnectionSettings
  | .table members => connectionOfTable members
  | .list items => connectionOfList items
  | found => throw (.notAGroup found "Connection".toList)

/-- The number of tables to remember that a setting describes. -/
def readMemory : Setting → Reading UInt64
  | .table members => do
      return (← member? readNumber members "max_tables").getD defaultMaxTables
  | .list [] => return defaultMaxTables
  | .list (first :: _) => readNumber first
  | found => throw (.notAGroup found "Cache".toList)

/-- The configuration that the settings of a file describe. -/
def ofMembers (members : Toml.Members) : Reading Configuration := do
  let connection ← member? readConnection members "connection"
  let maxTables ← member? readMemory members "cache"
  match connection with
  | none => throw (.missingField "connection".toList)
  | some connection =>
      return ⟨connection, maxTables.getD defaultMaxTables⟩

/-- The configuration in the text of a file, which need not be valid. -/
def ofText (text : Text) : Reading Configuration :=
  match Toml.read? text with
  | none => throw .malformedFile
  | some members => ofMembers members

/-- The valid configuration in the text of a file. -/
def ofTextValid (text : Text) : Reading Configuration := do
  validate (← ofText text)

/--
The valid configuration in the file at a path, by a way to read the text of a
file.
-/
def ofFile (readFile : Text → Option Text) (path : List UInt8) :
    Reading Configuration :=
  match Utf8.decode? path with
  | none => throw (.undecodablePath path)
  | some path =>
      match readFile path with
      | none => throw .unreadableFile
      | some text => ofTextValid text

end SqlAnywhere.Configuration
