import SqlAnywhere.Proofs.CacheIndependence
import SqlAnywhere.Proofs.CacheTransparency
import SqlAnywhere.Proofs.EntryHistory
import SqlAnywhere.Proofs.ServerVersion
import SqlAnywhere.Proofs.VersionQuestion

/-!
# Pinning the version of a server

A session that is pinned to a major version and one that finds out the same
version go through their operations side by side.  Their memories know the same
tables; that of the pinned session knows the family at every stage, and that of
the other one knows it or has to ask for it.  One operation keeps it so and
shows no difference but the question for the version, and hence any number of
them.
-/

namespace SqlAnywhere

variable {Cache : Type}

/--
The stages of a session that is pinned to a family and of one that is not:
the same is remembered, but for the family.
-/
structure Stage.Mirrors
    (family : ServerFamily) (pinned probing : Stage Cache) : Prop where
  known : pinned.memory.family = some family
  memory :
    probing.memory = pinned.memory ∨
      probing.memory = pinned.memory.withoutFamily

/-- Sessions that mirror each other keep the same tables. -/
theorem Stage.Mirrors.tables_eq {family : ServerFamily}
    {pinned probing : Stage Cache} (mirrors : Mirrors family pinned probing) :
    probing.memory.tables = pinned.memory.tables := by
  rcases mirrors.memory with same | same <;> rw [same]
  rfl

/-! ## Two outcomes that differ in the question for the version -/

/-- Nothing is left out of calls without the question for the version. -/
theorem Call.filter_ne_version {calls : List Call}
    (silent : .version ∉ calls) :
    calls.filter (· ≠ .version) = calls := by
  rw [List.filter_eq_self]
  intro call member
  rw [decide_eq_true_eq]
  rintro rfl
  exact silent member

namespace Outcome.Probes

variable {Result : Type}
  {known unknown : Outcome (Memory Cache) CatalogError Result}

theorem result_eq (probes : known.Probes unknown) :
    unknown.result = known.result := by
  cases probes with
  | unasked => rfl
  | asked => rfl

theorem memory_eq (probes : known.Probes unknown) :
    unknown.memory = known.memory ∨
      unknown.memory = known.memory.withoutFamily := by
  cases probes with
  | unasked => exact .inr rfl
  | asked => exact .inl rfl

theorem filter_calls (probes : known.Probes unknown)
    (silent : Call.version ∉ known.calls) :
    unknown.calls.filter (· ≠ .version) = known.calls := by
  have others := Call.filter_ne_version silent
  cases probes with
  | unasked => exact others
  | asked => simpa [following] using others

end Outcome.Probes

variable [TableCache Cache]

/-! ## One operation -/

namespace Operation

open Program

variable {server : Server} {session : Session Cache} {operation : Operation}
  {memory : Memory Cache} {family : ServerFamily} {past : List Call}

/-- A pinned session knows the family after each operation. -/
theorem family_outcome_of_known
    (pinned : session.pinned = some family)
    (known : memory.family = some family) :
    (operation.outcome server session ⟨memory, past⟩).memory.family =
      some family := by
  have dropped : (operation.drop session memory).family = some family := by
    rcases operation.family_drop memory with kept | given
    · exact kept.trans known
    · exact given.trans pinned
  rcases @family_outcome _ _ server session operation ⟨memory, past⟩ with
    kept | ⟨family', found, left⟩
  · exact kept.trans dropped
  · rw [Session.familyFrom_of_known dropped] at found
    rw [left, Except.ok.inj found]

/-- What a session is pinned to shows only where it forgets everything. -/
theorem program_eq_of_ne
    (owner : Text) (maxTables : UInt64) (first second : Option ServerFamily)
    (ordinary : operation ≠ .forgetAll) :
    operation.program (⟨owner, first, maxTables⟩ : Session Cache) =
      operation.program ⟨owner, second, maxTables⟩ := by
  cases operation with
  | forgetAll => exact absurd rfl ordinary
  | load | refresh | forget | family | tableNames | restartKeys => rfl

end Operation

namespace Stage.Mirrors

variable {server : Server} {family : ServerFamily}
  {pinned probing : Stage Cache}

/-- Sessions begin with the same tables, none. -/
theorem initial (owner : Text) (maxTables : UInt64) (family : ServerFamily) :
    Mirrors family
      (.initial (⟨owner, some family, maxTables⟩ : Session Cache))
      (.initial ⟨owner, none, maxTables⟩) :=
  ⟨rfl, .inr rfl⟩

/--
An operation has one outcome in both sessions where the family is known, and
else the session that is not pinned asks for it first or not at all.
-/
theorem outcome_cases
    (timeless : server.IsTimeless)
    (told : Session.familyIn (server [] .version) = .ok family)
    (mirrors : Mirrors family pinned probing)
    (owner : Text) (maxTables : UInt64)
    {operation : Operation} (ordinary : operation ≠ .forgetAll) :
    let pinnedOutcome :=
      operation.outcome server ⟨owner, some family, maxTables⟩ pinned
    let probingOutcome :=
      operation.outcome server ⟨owner, none, maxTables⟩ probing
    (probing.memory.family = some family ∧ probingOutcome = pinnedOutcome) ∨
      (probing.memory.family = none ∧
        pinnedOutcome.Probes probingOutcome) := by
  obtain ⟨known, same | same⟩ := mirrors
  · refine .inl ⟨by rw [same, known], ?_⟩
    rw [Operation.outcome, Operation.outcome, same,
      operation.program_eq_of_ne owner maxTables none (some family) ordinary]
    exact Program.outcome_of_isTimeless timeless _ _ _ _
  · refine .inr ⟨by rw [same]; rfl, ?_⟩
    have probes :=
      @Operation.probes _ server ⟨owner, some family, maxTables⟩ operation
        pinned.memory family pinned.past probing.past _ timeless told known
        ordinary
    rw [Operation.outcome, Operation.outcome] at probes ⊢
    rw [same,
      operation.program_eq_of_ne owner maxTables none (some family) ordinary]
    exact probes

/--
An operation gives the same in both sessions and shows the same calls but for
the question for the version, which the pinned session does not ask.
-/
theorem outcome
    (timeless : server.IsTimeless)
    (told : Session.familyIn (server [] .version) = .ok family)
    (mirrors : Mirrors family pinned probing)
    (owner : Text) (maxTables : UInt64)
    (operation : Operation) :
    let pinnedOutcome :=
      operation.outcome server ⟨owner, some family, maxTables⟩ pinned
    let probingOutcome :=
      operation.outcome server ⟨owner, none, maxTables⟩ probing
    probingOutcome.result = pinnedOutcome.result ∧
      probingOutcome.calls.filter (· ≠ .version) = pinnedOutcome.calls ∧
      .version ∉ pinnedOutcome.calls ∧
      Mirrors family
        (pinned.next server ⟨owner, some family, maxTables⟩ operation)
        (probing.next server ⟨owner, none, maxTables⟩ operation) := by
  intro pinnedOutcome probingOutcome
  have silent : .version ∉ pinnedOutcome.calls :=
    Operation.version_notMem_calls mirrors.known
  have known : pinnedOutcome.memory.family = some family :=
    Operation.family_outcome_of_known rfl mirrors.known
  by_cases all : operation = .forgetAll
  · subst all
    have dropped :
        pinnedOutcome =
          ⟨.ok .done, pinned.memory.forgetAll (some family), []⟩ :=
      Operation.outcome_forgetAll
    have dropped' :
        probingOutcome = ⟨.ok .done, probing.memory.forgetAll none, []⟩ :=
      Operation.outcome_forgetAll
    refine ⟨?_, ?_, silent, known, .inr ?_⟩
    · rw [dropped, dropped']
    · rw [dropped, dropped']
      rfl
    · change probingOutcome.memory = pinnedOutcome.memory.withoutFamily
      rw [dropped, dropped', Memory.forgetAll, mirrors.tables_eq]
      rfl
  · rcases mirrors.outcome_cases timeless told owner maxTables all with
      ⟨-, same⟩ | ⟨-, probes⟩
    · refine ⟨congrArg Outcome.result same, ?_, silent, known,
        .inl (congrArg Outcome.memory same)⟩
      rw [← Call.filter_ne_version silent]
      exact congrArg (fun left => left.calls.filter (· ≠ .version)) same
    · exact ⟨probes.result_eq, probes.filter_calls silent, silent, known,
        probes.memory_eq⟩

/-- The stages of both sessions mirror each other after any operations. -/
theorem after
    (timeless : server.IsTimeless)
    (told : Session.familyIn (server [] .version) = .ok family)
    (owner : Text) (maxTables : UInt64) (operations : List Operation) :
    Mirrors family
      (.after server (⟨owner, some family, maxTables⟩ : Session Cache)
        operations)
      (.after server ⟨owner, none, maxTables⟩ operations) := by
  induction operations using List.reverseRecOn with
  | nil => exact .initial owner maxTables family
  | append_singleton operations operation ih =>
      rw [Stage.after_concat, Stage.after_concat]
      exact (ih.outcome timeless told owner maxTables operation).2.2.2

end Stage.Mirrors

/-! ## Pinned and probing sessions -/

end SqlAnywhere
