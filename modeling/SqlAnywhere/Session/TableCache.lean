import SqlAnywhere.Catalog.Table

/-!
# Caches of tables

A session keeps the tables that it loaded in a cache, under their keys; that a
table does not exist is kept too.  A cache has a capacity, and which entries it
gives up for the sake of it is its own affair: whatever is put into a cache may
be gone when it is looked for.  What is found is what was put there last.

All that a session relies on are the laws of `TableCache`.  Two caches are
given here, one that gives up nothing, and one that gives up what has been
there longest.
-/

namespace SqlAnywhere

/--
A cache of tables under keys, where nothing stands for a table that does not
exist.  An insertion may cost any entry, also the new one.  An erasure
reaches one key, and looking for an entry leaves the cache as it is.
-/
class TableCache (Cache : Type) where
  /-- A cache without entries, for a number of tables. -/
  empty (capacity : UInt64) : Cache
  find? (cache : Cache) (key : Text) : Option (Option Table)
  insert (cache : Cache) (key : Text) (table : Option Table) : Cache
  erase (cache : Cache) (key : Text) : Cache
  /-- The cache without its entries. -/
  clear (cache : Cache) : Cache
  find?_empty (capacity : UInt64) (key : Text) :
    find? (empty capacity) key = none
  find?_insert (cache : Cache) (key other : Text) (table : Option Table) :
    find? (insert cache key table) other =
        (if other = key then some table else find? cache other) ∨
      find? (insert cache key table) other = none
  find?_erase (cache : Cache) (key other : Text) :
    find? (erase cache key) other =
      if other = key then none else find? cache other
  find?_clear (cache : Cache) (key : Text) : find? (clear cache) key = none

namespace TableCache

attribute [simp] find?_empty find?_clear

/-- Caches in which an entry stays until it is replaced or erased. -/
def NeverEvicts (Cache : Type) [TableCache Cache] : Prop :=
  ∀ (cache : Cache) (key other : Text) (table : Option Table),
    find? (insert cache key table) other =
      if other = key then some table else find? cache other

end TableCache

/-! ## Entries without a bound -/

/-- Tables under their keys, each key once. -/
abbrev TableEntries := List (Text × Option Table)

namespace TableEntries

/-- What there is under a key. -/
def find? (entries : TableEntries) (key : Text) : Option (Option Table) :=
  List.lookup key entries

/-- The entries of all other keys. -/
def erase (entries : TableEntries) (key : Text) : TableEntries :=
  entries.filter fun entry => entry.1 ≠ key

/-- The entries with a new one, which comes first. -/
def insert (entries : TableEntries) (key : Text) (table : Option Table) :
    TableEntries :=
  (key, table) :: erase entries key

theorem find?_erase (entries : TableEntries) (key other : Text) :
    find? (erase entries key) other =
      if other = key then none else find? entries other := by
  induction entries with
  | nil => simp [erase, find?]
  | cons entry entries same =>
      unfold erase find? at *
      rw [List.filter_cons]
      by_cases erased : entry.1 = key
      · simp only [erased, ne_eq, not_true_eq_false, decide_false,
          Bool.false_eq_true, if_false, same]
        split
        · rfl
        · next different =>
            rw [List.lookup_cons, beq_false_of_ne (by rwa [erased])]
      · simp only [ne_eq, erased, not_false_eq_true, decide_true, if_true]
        rw [List.lookup_cons, List.lookup_cons, same]
        by_cases hit : other = entry.1
        · simp [hit, erased]
        · rw [beq_false_of_ne hit]

theorem find?_insert (entries : TableEntries) (key other : Text)
    (table : Option Table) :
    find? (insert entries key table) other =
      if other = key then some table else find? entries other := by
  unfold insert
  rw [find?, List.lookup_cons]
  by_cases hit : other = key
  · simp [hit]
  · rw [beq_false_of_ne hit, if_neg hit]
    have erased := find?_erase entries key other
    rwa [if_neg hit] at erased

/-- What is found among the first entries is found among all. -/
theorem find?_take (entries : TableEntries) (count : Nat) (key : Text) :
    find? (entries.take count) key = find? entries key ∨
      find? (entries.take count) key = none := by
  unfold find?
  induction entries generalizing count with
  | nil => simp
  | cons entry entries ih =>
      cases count with
      | zero => exact .inr rfl
      | succ count =>
          rw [List.take_succ_cons, List.lookup_cons, List.lookup_cons]
          split
          · exact .inl rfl
          · exact ih count

/-- Entries make up a cache that takes no heed of its capacity. -/
instance : TableCache TableEntries where
  empty _ := []
  find? := find?
  insert := insert
  erase := erase
  clear _ := []
  find?_empty _ _ := rfl
  find?_insert entries key other table :=
    .inl (find?_insert entries key other table)
  find?_erase := find?_erase
  find?_clear _ _ := rfl

theorem neverEvicts : TableCache.NeverEvicts TableEntries :=
  find?_insert

end TableEntries

/-! ## A bounded cache -/

/-- A cache that gives up the entries that have been there longest. -/
structure BoundedCache where
  capacity : UInt64
  /-- The entries, from the latest to the earliest one. -/
  entries : TableEntries

namespace BoundedCache

instance : TableCache BoundedCache where
  empty capacity := ⟨capacity, []⟩
  find? cache key := cache.entries.find? key
  insert cache key table :=
    { cache with
      entries := (cache.entries.insert key table).take cache.capacity.toNat }
  erase cache key := { cache with entries := cache.entries.erase key }
  clear cache := { cache with entries := [] }
  find?_empty _ _ := rfl
  find?_insert cache key other table := by
    rw [← TableEntries.find?_insert]
    exact TableEntries.find?_take _ _ other
  find?_erase cache key other := cache.entries.find?_erase key other
  find?_clear _ _ := rfl

end BoundedCache

end SqlAnywhere
