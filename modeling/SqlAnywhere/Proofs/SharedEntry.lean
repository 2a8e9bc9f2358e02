import SqlAnywhere.Proofs.SessionOutcome

/-!
# Which references share an entry

References are one to the memory if their parts agree in upper case, and
compare equal if their parts agree in ASCII case.  Within ASCII the two come
to the same.  Outside, references that compare different can share an entry,
and then the table loaded for the first is given for the second.
-/

namespace SqlAnywhere

variable {Cache : Type} [TableCache Cache]

/-! ## Keys and comparison -/

namespace TableName

/-- In ASCII, references with one key compare equal. -/
theorem sameReference_of_key_eq
    {first second defaultOwner : Text}
    (ascii :
      let name := resolve first defaultOwner
      let other := resolve second defaultOwner
      Text.IsAscii
        (name.owner ++ name.name ++ other.owner ++ other.name))
    (shared :
      (resolve first defaultOwner).key = (resolve second defaultOwner).key) :
    sameReference first second defaultOwner := by
  simp only [Text.isAscii_append] at ascii
  obtain ⟨⟨⟨owner, bare⟩, owner'⟩, bare'⟩ := ascii
  have agree := (key_eq_iff first second defaultOwner).1 shared
  rw [← resolve_name first defaultOwner,
    ← resolve_name second defaultOwner] at agree
  rw [sameReference, sameTable, Bool.and_eq_true]
  constructor
  · exact Text.sameLetters_of_upper_eq owner owner' agree.1
  · exact Text.sameLetters_of_upper_eq bare bare' agree.2

/--
Keys depart from the comparison only as references with one key that compare
different.
-/
theorem keys_depart_iff (first second defaultOwner : Text) :
    ¬ ((resolve first defaultOwner).key = (resolve second defaultOwner).key ↔
        sameReference first second defaultOwner) ↔
      (resolve first defaultOwner).key = (resolve second defaultOwner).key ∧
        ¬ sameReference first second defaultOwner := by
  have finer :
      sameReference first second defaultOwner →
        (resolve first defaultOwner).key =
          (resolve second defaultOwner).key :=
    key_eq_of_sameReference
  constructor
  · intro departs
    have different : ¬ sameReference first second defaultOwner := by
      intro same
      exact departs ⟨fun _ => same, finer⟩
    refine ⟨?_, different⟩
    by_contra apart
    exact departs ⟨fun shared => absurd shared apart, finer⟩
  · rintro ⟨shared, different⟩ agrees
    exact different (agrees.1 shared)

end TableName

/-! ## The entry shared -/

namespace Session

open Program TableName

/--
The table loaded for a reference is given for every reference with its key,
as long as it is remembered.
-/
theorem outcome_table_of_key_eq
    (session : Session Cache) {first second : Text}
    (shared : session.key first = session.key second)
    {server : Server} {memory : Memory Cache} {past : List Call}
    {table : Option Table}
    (loaded :
      ((session.table first).outcome server memory past).result = .ok table)
    (server' : Server) (past' : List Call) :
    let left := ((session.table first).outcome server memory past).memory
    left.find? (session.key second) ≠ none →
      (session.table second).outcome server' left past' =
        ⟨.ok table, left, []⟩ := by
  intro left kept
  apply outcome_table_of_find?_some
  rw [← shared] at kept ⊢
  exact (find?_table_of_ok session first loaded).resolve_right kept

/--
What it takes to share a key, and what comes of it.  Keys depart from the
comparison of references exactly where the parts agree in upper case and not
in ASCII case, which takes a character outside ASCII.  What is remembered
under a shared key answers both references.  It is the table that was loaded
last, unless the cache has given it up.
-/
theorem shared_entry_against_comparison
    (session : Session Cache) (first second : Text) :
    let name := resolve first session.defaultOwner
    let other := resolve second session.defaultOwner
    let same := sameReference first second session.defaultOwner
    let agree :=
      Text.upper name.owner = Text.upper other.owner ∧
        Text.upper name.name = Text.upper other.name
    (name.key = other.key ↔ agree) ∧
    (¬ (name.key = other.key ↔ same) ↔ agree ∧ ¬ same) ∧
    (Text.IsAscii (name.owner ++ name.name ++ other.owner ++ other.name) →
      (name.key = other.key ↔ same)) ∧
    (session.key first = session.key second ↔
      (IsBare first ↔ IsBare second) ∧ name.key = other.key) ∧
    ∀ (server : Server) (memory : Memory Cache) (past : List Call)
        (table : Option Table),
      let loading := (session.table first).outcome server memory past
      let entry := loading.memory.find? (session.key second)
      loading.result = .ok table →
      (session.key first = session.key second →
        (entry = some table ∨ entry = none) ∧
        ∀ (server' : Server) (past' : List Call), entry ≠ none →
          (session.table second).outcome server' loading.memory past' =
            ⟨.ok table, loading.memory, []⟩) ∧
      (session.key first ≠ session.key second →
        entry = memory.find? (session.key second) ∨ entry = none) ∧
      (TableCache.NeverEvicts Cache →
        entry =
          if session.key second = session.key first then some table
          else memory.find? (session.key second)) := by
  intro name other same agree
  have keys : name.key = other.key ↔ agree := by
    rw [TableName.key_eq_iff, ← resolve_name first session.defaultOwner,
      ← resolve_name second session.defaultOwner]
  refine ⟨keys, ?_, ?_, ?_, ?_⟩
  · rw [← keys]
    exact keys_depart_iff first second session.defaultOwner
  · intro ascii
    exact ⟨sameReference_of_key_eq ascii, key_eq_of_sameReference⟩
  · rw [session.key_eq_iff, keys]
    simp only [agree, name, other, resolve_name]
  · intro server memory past table loading entry loaded
    refine ⟨?_, ?_, ?_⟩
    · intro shared
      constructor
      · rw [show entry = loading.memory.find? _ from rfl, ← shared]
        exact find?_table_of_ok session first loaded
      · intro server' past'
        exact session.outcome_table_of_key_eq shared loaded server' past'
    · intro apart
      exact find?_table_of_ne session first apart
    · intro never
      exact find?_table_of_neverEvicts session first never loaded _

/--
Once a name with a sharp s is loaded, the memory answers the name with a
double s in its place.  Spellings in ASCII share a key because they compare
equal.
-/
theorem double_s_answered_by_sharp_s :
    let session : Session TableEntries := ⟨"dbo".toList, some .v12, 1024⟩
    let loading :=
      (session.table "dbo.straße".toList).outcome (fun _ _ => .ok [])
        session.start []
    ¬ sameReference "dbo.straße".toList "dbo.STRASSE".toList
        session.defaultOwner ∧
      (∀ (server : Server) (past : List Call),
        (session.table "dbo.STRASSE".toList).outcome server loading.memory
            past =
          ⟨.ok none, loading.memory, []⟩) ∧
      ((resolve "[DBO].Users".toList session.defaultOwner).key =
          (resolve "users".toList session.defaultOwner).key ↔
        sameReference "[DBO].Users".toList "users".toList
          session.defaultOwner) := by
  intro session loading
  have sharp :=
    shared_entry_against_comparison session "dbo.straße".toList
      "dbo.STRASSE".toList
  have plain :=
    shared_entry_against_comparison session "[DBO].Users".toList
      "users".toList
  have loaded : loading.result = .ok none := rfl
  refine ⟨by decide, ?_, plain.2.2.1 (by decide)⟩
  obtain ⟨answers, -, kept⟩ :=
    sharp.2.2.2.2 _ session.start [] none loaded
  have shared :
      session.key "dbo.straße".toList = session.key "dbo.STRASSE".toList := by
    decide
  have entry := kept TableEntries.neverEvicts
  rw [if_pos shared.symm] at entry
  intro server past
  refine (answers shared).2 server past ?_
  rw [entry]
  exact Option.some_ne_none none

/--
Keys do not tell a sharp s from a double one, and the comparison of
references does.
-/
theorem keys_depart_at_sharp_s :
    ¬ ∀ first second defaultOwner : Text,
      (resolve first defaultOwner).key = (resolve second defaultOwner).key ↔
        sameReference first second defaultOwner := by
  intro agrees
  have shared :
      (resolve "straße".toList "dbo".toList).key =
        (resolve "STRASSE".toList "dbo".toList).key := by
    decide
  have same := (agrees _ _ _).1 shared
  exact absurd same (by decide)

end Session

end SqlAnywhere
