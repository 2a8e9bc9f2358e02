import SqlAnywhere.Catalog.ServerFamily
import SqlAnywhere.Session.TableCache

/-!
# The memory of a session

A session remembers the family of its server and, in a cache, the tables that
it loaded.
-/

namespace SqlAnywhere

/-- What a session remembers. -/
structure Memory (Cache : Type) where
  tables : Cache
  family : Option ServerFamily

namespace Memory

variable {Cache : Type}

/-- A memory that knows the family of the server. -/
def rememberFamily (family : ServerFamily) (memory : Memory Cache) :
    Memory Cache :=
  { memory with family := some family }

variable [TableCache Cache]

/--
The memory of a new session, for a number of tables; a pinned family is known
from the start.
-/
def initial (maxTables : UInt64) (pinned : Option ServerFamily) :
    Memory Cache :=
  ⟨TableCache.empty maxTables, pinned⟩

/-- What is remembered of a table under a key. -/
def find? (memory : Memory Cache) (key : Text) : Option (Option Table) :=
  TableCache.find? memory.tables key

/-- A memory that was told of a table, or that there is none. -/
def rememberTable (key : Text) (table : Option Table)
    (memory : Memory Cache) : Memory Cache :=
  { memory with tables := TableCache.insert memory.tables key table }

/-- A memory that knows nothing about a table. -/
def forgetTable (key : Text) (memory : Memory Cache) : Memory Cache :=
  { memory with tables := TableCache.erase memory.tables key }

/-- A memory that knows no table, and of the family what is pinned. -/
def forgetAll (pinned : Option ServerFamily) (memory : Memory Cache) :
    Memory Cache :=
  ⟨TableCache.clear memory.tables, pinned⟩

@[simp]
theorem find?_initial (maxTables : UInt64) (pinned : Option ServerFamily)
    (key : Text) :
    (initial maxTables pinned : Memory Cache).find? key = none :=
  TableCache.find?_empty maxTables key

/--
The table is remembered under its key and all else as before, but for what
the cache gives up.
-/
theorem find?_rememberTable (key other : Text) (table : Option Table)
    (memory : Memory Cache) :
    (memory.rememberTable key table).find? other =
        (if other = key then some table else memory.find? other) ∨
      (memory.rememberTable key table).find? other = none :=
  TableCache.find?_insert memory.tables key other table

/-- What a cache that gives up nothing is told of a table stays. -/
theorem find?_rememberTable_of_neverEvicts
    (never : TableCache.NeverEvicts Cache) (key other : Text)
    (table : Option Table) (memory : Memory Cache) :
    (memory.rememberTable key table).find? other =
      if other = key then some table else memory.find? other :=
  never memory.tables key other table

/-- Nothing is remembered under a forgotten key, and all else as before. -/
theorem find?_forgetTable (key other : Text) (memory : Memory Cache) :
    (memory.forgetTable key).find? other =
      if other = key then none else memory.find? other :=
  TableCache.find?_erase memory.tables key other

@[simp]
theorem find?_forgetAll (pinned : Option ServerFamily) (key : Text)
    (memory : Memory Cache) : (memory.forgetAll pinned).find? key = none :=
  TableCache.find?_clear memory.tables key

end Memory

end SqlAnywhere
