import SqlAnywhere.Proofs.SessionHistory

/-!
# The history of an entry

What becomes of one entry of the memory while a session goes on.  Until a
reference with a key is loaded, what is remembered under the key is what was
remembered before, and a key under which nothing is remembered stays unknown.
This is a fact about one operation, and by induction about any number of them.
-/

namespace SqlAnywhere

variable {Cache : Type}

/-- Whether an operation loads a reference with a key. -/
def Operation.LoadsKey (session : Session Cache) (key : Text)
    (operation : Operation) : Prop :=
  ∃ reference,
    operation.loads? = some reference ∧ session.key reference = key

variable [TableCache Cache]

/-- The stage after a sequence of operations that begins at another stage. -/
def Stage.through (server : Server) (session : Session Cache)
    (stage : Stage Cache) (operations : List Operation) : Stage Cache :=
  operations.foldl (Stage.next server session) stage

/-- A session goes on from the stage after its first operations. -/
theorem Stage.after_append (server : Server) (session : Session Cache)
    (earlier later : List Operation) :
    after server session (earlier ++ later) =
      (after server session earlier).through server session later :=
  List.foldl_append

/-! ## One operation -/

/--
What is remembered under a key that an operation does not load was remembered
before.
-/
theorem Operation.find?_of_outcome
    {server : Server} {session : Session Cache} {operation : Operation}
    {stage : Stage Cache} {key : Text} {table : Option Table}
    (idle : ¬ operation.LoadsKey session key)
    (remembered :
      (operation.outcome server session stage).memory.find? key =
        some table) :
    stage.memory.find? key = some table := by
  rcases operation.find?_outcome remembered with
    ⟨before, -⟩ | ⟨reference, loads, here, -⟩
  · exact before
  · exact absurd ⟨reference, loads, here⟩ idle

/-! ## Any number of operations -/

namespace Stage

variable {server : Server} {session : Session Cache} {stage : Stage Cache}
  {operations : List Operation} {key : Text}

/--
What is remembered under a key that no operation loads was remembered before.
-/
theorem find?_of_through
    (idle : ∀ operation ∈ operations, ¬ operation.LoadsKey session key)
    {table : Option Table}
    (remembered :
      (stage.through server session operations).memory.find? key =
        some table) :
    stage.memory.find? key = some table := by
  induction operations generalizing stage with
  | nil => exact remembered
  | cons operation operations ih =>
      have first := idle operation List.mem_cons_self
      have others : ∀ other ∈ operations, ¬ other.LoadsKey session key :=
        fun other member => idle other (List.mem_cons_of_mem _ member)
      exact Operation.find?_of_outcome first (ih others remembered)

/-- An unknown key that no operation loads stays unknown. -/
theorem find?_through_eq_none
    (unknown : stage.memory.find? key = none)
    (idle : ∀ operation ∈ operations, ¬ operation.LoadsKey session key) :
    (stage.through server session operations).memory.find? key = none := by
  rw [Option.eq_none_iff_forall_ne_some]
  intro table remembered
  rw [find?_of_through idle remembered] at unknown
  cases unknown

end Stage

end SqlAnywhere
