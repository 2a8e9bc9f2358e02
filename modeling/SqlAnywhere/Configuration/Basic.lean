import SqlAnywhere.Catalog.ServerFamily
import SqlAnywhere.Configuration.Setting
import SqlAnywhere.Text.Utf8

/-!
# Configurations

A configuration says how to connect to a server, which owner names without one
belong to, and how many tables to remember.  A valid one names a supported
server version, if any, and allows at least one table and one connection.
-/

namespace SqlAnywhere

/-- How to connect to a server. -/
structure ConnectionSettings where
  dsn : Text
  /-- The owner of names without one, where no default owner is given. -/
  username : Option Text
  defaultOwner : Option Text
  /-- The major version of the server, which is then not asked for. -/
  serverVersion : Option UInt32
  maxConnections : UInt32
deriving DecidableEq

/-- The settings of an adapter. -/
structure Configuration where
  connection : ConnectionSettings
  /-- The greatest number of tables to remember. -/
  maxTables : UInt64
deriving DecidableEq

/-- Why there is no valid configuration. -/
inductive ConfigurationError where
  /-- The path of the file is no text. -/
  | undecodablePath (bytes : List UInt8)
  /-- There is no file at the path. -/
  | unreadableFile
  | malformedFile
  /-- A setting cannot be taken for what is asked for. -/
  | wrongType
  | missingField (name : Text)
  /-- A setting stands in the place of a group of settings. -/
  | notAGroup (found : Setting) (group : Text)
  /-- A list of settings ends before the group that it stands for. -/
  | shortGroup (length : Nat) (group : Text)
  | unsupportedVersion (version : UInt32)
  | noTables
  | noConnections

namespace ConfigurationError

/-- The pieces of a path as a message shows them. -/
def escapedPiece : Utf8.Piece → Text
  | .character value => escapeCharacter value
  | .byte value =>
      let digits := (Nat.toDigits 16 value.toNat).map Char.toUpper
      "\\x".toList ++ List.replicate (2 - digits.length) '0' ++ digits

/-- The fault of a configuration, in words; faults of a file have none. -/
def message? : ConfigurationError → Option Text
  | .undecodablePath bytes =>
      some ("Config path \"".toList ++
        (Utf8.pieces bytes).flatMap escapedPiece ++
        "\" is not valid UTF-8".toList)
  | .unreadableFile | .malformedFile | .wrongType => none
  | .missingField name =>
      some ("missing field `".toList ++ name ++ "`".toList)
  | .notAGroup found group =>
      some ("invalid type: ".toList ++ found.description ++
        ", expected struct ".toList ++ group)
  | .shortGroup length group =>
      some ("invalid length ".toList ++ Numeral.ofNat length ++
        ", expected struct ".toList ++ group)
  | .unsupportedVersion version =>
      some ("Server version ".toList ++ Numeral.ofNat version.toNat ++
        " is not supported (expected one of 9, 11, 12, 16, 17)".toList)
  | .noTables =>
      some "cache.max_tables must be greater than zero".toList
  | .noConnections =>
      some "connection.max_connections must be greater than zero".toList

end ConfigurationError

namespace Configuration

/-- The number of connections that are allowed by default. -/
def defaultMaxConnections : UInt32 := 4

/-- The number of tables that are remembered by default. -/
def defaultMaxTables : UInt64 := 1024

/-- The owner of names without one where the configuration names none. -/
def fallbackOwner : Text := "dbo".toList

/-- A name without the blanks around it, if one is given and not blank. -/
def nonBlank? (name : Option Text) : Option Text :=
  (name.map Text.trim).filter (!·.isEmpty)

/-- The owner of names without one: the default owner, else the user. -/
def ownerName (configuration : Configuration) : Text :=
  ((nonBlank? configuration.connection.defaultOwner).or
    (nonBlank? configuration.connection.username)).getD fallbackOwner

/-- A configuration that is valid; of several faults the first is reported. -/
def validate (configuration : Configuration) :
    Except ConfigurationError Configuration := do
  if let some version := configuration.connection.serverVersion then
    if (ServerFamily.ofMajor? version).isNone then
      throw (.unsupportedVersion version)
  if configuration.maxTables = 0 then
    throw .noTables
  if configuration.connection.maxConnections = 0 then
    throw .noConnections
  return configuration

end Configuration

end SqlAnywhere
