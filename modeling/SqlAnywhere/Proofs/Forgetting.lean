import SqlAnywhere.Proofs.SessionOutcome

/-!
# Forgetting reaches every spelling

A table can be remembered under two keys, that of its bare name and that of
its qualified name.  Forgetting it through one reference drops the entry of
every reference that compares equal, and no other entry.
-/

namespace SqlAnywhere.Session

open Program TableName

variable {Cache : Type}

theorem sameReference_refl (reference defaultOwner : Text) :
    sameReference reference reference defaultOwner := by
  simp [sameReference, sameTable]

/--
Forgetting a reference drops the key of every reference that compares equal
to it.
-/
theorem key_mem_keysOf
    (session : Session Cache) {first second : Text}
    (same : sameReference first second session.defaultOwner) :
    session.key second ∈ session.keysOf first := by
  rw [keysOf]
  by_cases bare : IsBare second
  · have parts := same
    rw [sameReference, sameTable, Bool.and_eq_true,
      resolve_of_isBare _ bare] at parts
    rw [key_of_isBare session bare, if_pos parts.1, bareKey, bareKey,
      ← Text.upper_eq_of_sameLetters parts.2]
    simp
  · rw [key_of_not_isBare session bare, ← key_eq_of_sameReference same]
    exact List.mem_cons_self

/--
A key is dropped with a reference if it is the key of its table, or of its
bare name where the owner is the default one.
-/
theorem mem_keysOf_iff (session : Session Cache) (reference key : Text) :
    key ∈ session.keysOf reference ↔
      let name := resolve reference session.defaultOwner
      key = name.key ∨
        Text.sameLetters name.owner session.defaultOwner ∧
          key = bareKey name.name := by
  rw [keysOf, List.mem_cons]
  by_cases default : Text.sameLetters
      (resolve reference session.defaultOwner).owner session.defaultOwner <;>
    simp [default]

variable [TableCache Cache]

/--
Nothing is left under the key of a reference that compares equal to a
forgotten one.
-/
theorem find?_forgotten_of_sameReference
    (session : Session Cache) (memory : Memory Cache) {first second : Text}
    (same : sameReference first second session.defaultOwner) :
    (session.forgotten first memory).find? (session.key second) =
      none := by
  rw [find?_forgotten, if_pos (key_mem_keysOf session same)]

/-- A refreshed table is loaded from what forgetting it leaves. -/
theorem outcome_refreshTable_eq_fetchTable
    (session : Session Cache) (reference : Text)
    {server : Server} {memory : Memory Cache} {past : List Call} :
    (session.refreshTable reference).outcome server memory past =
      (session.fetchTable reference).outcome server
        (session.forgotten reference memory) past := by
  rw [outcome_refreshTable, outcome_table_of_find?_none]
  exact session.find?_forgotten_of_sameReference memory
    (sameReference_refl reference session.defaultOwner)

/--
After a table is forgotten through one reference, no reference that compares
equal to it is answered from the memory: the next loading goes to the server.
Only the keys of the reference are dropped, and a refreshed table is never
one that was remembered before.
-/
theorem forgotten_under_every_spelling
    (server : Server) (session : Session Cache) (memory : Memory Cache)
    (past : List Call) (first : Text) :
    let name := resolve first session.defaultOwner
    let forgetting :=
      (session.forgetTable first :
        Program (Memory Cache) CatalogError Unit).outcome server memory past
    let left := forgetting.memory
    let refreshing := (session.refreshTable first).outcome server memory past
    (∀ second, sameReference first second session.defaultOwner →
      left.find? (session.key second) = none ∧
        (session.table second).outcome server left past =
          (session.fetchTable second).outcome server left past ∧
        ((session.table second).outcome server left past).calls ≠ []) ∧
    (∀ key, left.find? key =
      if key = name.key ∨
          Text.sameLetters name.owner session.defaultOwner ∧
            key = bareKey name.name then
        none
      else
        memory.find? key) ∧
    left.family = memory.family ∧
    forgetting.calls = [] ∧
    refreshing = (session.fetchTable first).outcome server left past ∧
    refreshing.calls ≠ [] := by
  intro name forgetting left refreshing
  have outcome : forgetting = ⟨.ok (), session.forgotten first memory, []⟩ :=
    outcome_forgetTable session first
  have dropped : left = session.forgotten first memory :=
    congrArg Outcome.memory outcome
  have refreshed :
      refreshing = (session.fetchTable first).outcome server left past := by
    rw [dropped]
    exact session.outcome_refreshTable_eq_fetchTable first
  refine ⟨?_, ?_, ?_, ?_, refreshed, ?_⟩
  · intro second same
    have unknown : left.find? (session.key second) = none := by
      rw [dropped]
      exact session.find?_forgotten_of_sameReference memory same
    have loaded :
        (session.table second).outcome server left past =
          (session.fetchTable second).outcome server left past :=
      outcome_table_of_find?_none session second unknown
    refine ⟨unknown, loaded, ?_⟩
    rw [loaded]
    exact calls_fetchTable_ne_nil session second
  · intro key
    rw [dropped, find?_forgotten]
    exact if_congr (mem_keysOf_iff session first key) rfl rfl
  · rw [dropped, family_forgotten]
  · exact congrArg Outcome.calls outcome
  · rw [refreshed]
    exact calls_fetchTable_ne_nil session first

/--
Forgetting a table by its owner and name in brackets reaches its bare name,
and not the table of that name of another owner.
-/
theorem users_forgotten_by_bare_name :
    let session : Session TableEntries := ⟨"dbo".toList, some .v12, 1024⟩
    let memory : Memory TableEntries :=
      ⟨[("USERS".toList, none), ("DBO.USERS".toList, none),
        ("ACME.USERS".toList, none)], some .v12⟩
    let server : Server := fun _ _ => .ok []
    let left :=
      ((session.forgetTable "[DBO].[Users]".toList :
        Program (Memory TableEntries) CatalogError Unit).outcome
          server memory []).memory
    memory.find? (session.key " users".toList) = some none ∧
      sameReference "[DBO].[Users]".toList " users".toList
        session.defaultOwner ∧
      left.find? (session.key " users".toList) = none ∧
      ((session.table " users".toList).outcome server left []).calls ≠ [] ∧
      left.find? "ACME.USERS".toList = some none := by
  intro session memory server left
  have same :
      sameReference "[DBO].[Users]".toList " users".toList
        session.defaultOwner := by
    decide
  have forgotten :=
    forgotten_under_every_spelling server session memory []
      "[DBO].[Users]".toList
  have unknown := forgotten.1 " users".toList same
  refine ⟨rfl, same, unknown.1, unknown.2.2, ?_⟩
  rw [forgotten.2.1, if_neg (by decide)]
  rfl

end SqlAnywhere.Session
