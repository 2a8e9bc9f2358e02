import SqlAnywhere.Configuration.Basic
import SqlAnywhere.Session.Basic

/-!
# Opening a session

A session is opened on a connection that a configuration describes.  Only once
the connection stands does the version of the server in the configuration
matter.
-/

namespace SqlAnywhere.Session

/-- The note about a server version that the configuration gives. -/
def pinnedMessage (major : UInt32) : Text :=
  "Using the catalog layout of server version ".toList ++
    Numeral.ofNat major.toNat

/-- The note about an open session. -/
def openedMessage (owner : Text) : Text :=
  "Connected, unqualified table names resolve to owner ".toList ++
    Text.quoted owner

/-- The program that sets up a session after an attempt to connect. -/
def opening {Memory Cache : Type} (connection : Except QueryError Unit)
    (configuration : Configuration) :
    Program Memory CatalogError (Session Cache) := do
  (Program.ofExcept connection).mapFailure .connection
  let owner := configuration.ownerName
  let major := configuration.connection.serverVersion
  let session ← Program.ofExcept (Session.create owner major)
  if let some major := major then
    Program.log .info (pinnedMessage major)
  Program.log .info (openedMessage owner)
  return session.withMaxTables configuration.maxTables

end SqlAnywhere.Session
