import SqlAnywhere.Catalog.Loader
import SqlAnywhere.Session.Memory

/-!
# Sessions

A session is one connection's view of a server.  It resolves names without an
owner to its default owner, finds out the family of the server unless that is
pinned, and remembers the tables that it loaded until they are forgotten, or
until its cache gives them up.

A name without an owner has an entry of its own in the memory, apart from that
of the qualified name, because only the former is checked for ambiguity.
-/

namespace SqlAnywhere

/-- What a session is set up with, which keeps its tables in a cache. -/
structure Session (Cache : Type) where
  defaultOwner : Text
  /-- The family to use instead of the one that the server reports. -/
  pinned : Option ServerFamily
  /-- The capacity of the cache. -/
  maxTables : UInt64

namespace Session

variable {Cache : Type}

/-- The capacity of a cache unless another one is set. -/
def defaultMaxTables : UInt64 :=
  1024

/--
A session with a default owner, pinned to the family of a major version if
one is given.
-/
def create (defaultOwner : Text) (major : Option UInt32) :
    Except CatalogError (Session Cache) := do
  match major with
  | none => return ⟨defaultOwner, none, defaultMaxTables⟩
  | some major =>
      let family ← ServerFamily.ofMajor major
      return ⟨defaultOwner, some family, defaultMaxTables⟩

/-- A session with a cache for another number of tables. -/
def withMaxTables (maxTables : UInt64) (session : Session Cache) :
    Session Cache :=
  { session with maxTables }

/-- The key under which a name without an owner is remembered. -/
def bareKey (name : Text) : Text :=
  Text.upper name

/-- The key under which the table that a reference names is remembered. -/
def key (session : Session Cache) (reference : Text) : Text :=
  match TableName.split reference with
  | (none, name) => bareKey name
  | (some _, _) => (TableName.resolve reference session.defaultOwner).key

/-- The note about the family of a server. -/
def familyMessage (version : Text) (family : ServerFamily) : Text :=
  "Server version ".toList ++ Text.quoted version ++ " uses the ".toList ++
    family.name ++ " catalog layout".toList

/-- Asks for the family of the server. -/
def probeFamily : Program (Memory Cache) CatalogError ServerFamily := do
  let value ← (Program.scalar .version).mapFailure .connection
  let version := value.display
  let family ← Program.ofExcept (ServerFamily.ofVersion version)
  Program.log .debug (familyMessage version family)
  return family

/-- The family of the server, which is asked for once. -/
def family : Program (Memory Cache) CatalogError ServerFamily := do
  match (← Program.memory).family with
  | some family => return family
  | none =>
      let family ← probeFamily
      Program.change (Memory.rememberFamily family)
      return family

/-- Forgets the family of the server, unless it is pinned. -/
def forgetFamily {Failure : Type} (session : Session Cache) :
    Program (Memory Cache) Failure Unit :=
  Program.change fun memory => { memory with family := session.pinned }

/--
The bare names of the tables and views of an owner, the default one if it is
blank.
-/
def tableNames (session : Session Cache) (owner : Text) :
    Program (Memory Cache) CatalogError (List Text) := do
  let family ← family
  Loader.tableNames family session.defaultOwner owner

/--
The value after the greatest one in the primary key of a table, or one if the
key has several columns.
-/
def nextKey (table : Table) : Program (Memory Cache) CatalogError Int64 :=
  match table.primaryKey with
  | [column] => do
      let greatest ←
        (Program.scalar
          (.greatestKey table.name.owner table.name.name column)).mapFailure
          (CatalogError.ofTable table.name.fullName)
      return greatest.toInt64?.getD 0 + 1
  | _ => return 1

variable [TableCache Cache]

/-- The memory that a session begins with. -/
def start (session : Session Cache) : Memory Cache :=
  .initial session.maxTables session.pinned

@[simp]
theorem find?_start (session : Session Cache) (key : Text) :
    session.start.find? key = none :=
  Memory.find?_initial session.maxTables session.pinned key

/-- Loads the table that a reference names and remembers it. -/
def fetchTable (session : Session Cache) (reference : Text) :
    Program (Memory Cache) CatalogError (Option Table) := do
  let family ← family
  let table ← Loader.load family session.defaultOwner reference
  if table.isNone then
    Program.log .debug
      ("Table ".toList ++ Text.quoted reference ++ " not found".toList)
  Program.change (Memory.rememberTable (session.key reference) table)
  return table

/-- The table that a reference names, or nothing if there is none. -/
def table (session : Session Cache) (reference : Text) :
    Program (Memory Cache) CatalogError (Option Table) := do
  match (← Program.memory).find? (session.key reference) with
  | some table => return table
  | none => session.fetchTable reference

/-- Forgets the table that a reference names, under each of its keys. -/
def forgetTable {Failure : Type} (session : Session Cache) (reference : Text) :
    Program (Memory Cache) Failure Unit := do
  let name := TableName.resolve reference session.defaultOwner
  Program.change (Memory.forgetTable name.key)
  if Text.sameLetters name.owner session.defaultOwner then
    Program.change (Memory.forgetTable (bareKey name.name))

/-- Forgets the table that a reference names and loads it again. -/
def refreshTable (session : Session Cache) (reference : Text) :
    Program (Memory Cache) CatalogError (Option Table) := do
  session.forgetTable reference
  session.table reference

/-- Forgets all tables, and the family of the server unless it is pinned. -/
def forgetAll {Failure : Type} (session : Session Cache) :
    Program (Memory Cache) Failure Unit := do
  Program.change (Memory.forgetAll session.pinned)
  Program.log .info "Dropped all cached table descriptors".toList

/--
The statement after which the next row of a table gets a key, by default the
one after the greatest; nothing if the table does not exist or generates no
keys.
-/
def restartKeys (session : Session Cache) (reference : Text)
    (next : Option Int64) :
    Program (Memory Cache) CatalogError (Option Text) := do
  match ← session.table reference with
  | none =>
      Program.log .warn
        ("Can't reset the sequence of unknown table ".toList ++
          Text.quoted reference)
      return none
  | some table =>
      match table.generator with
      | none => return none
      | some generator =>
          let next ←
            match next with
            | some next => pure next
            | none => nextKey table
          return some (Maintenance.restartKeys table.name.owner
            table.name.name generator next)

end Session

end SqlAnywhere
