import SqlAnywhere.Catalog.Run

/-!
# Outcomes

The outcome of a program is what its caller and the server see of a run: the
result, the memory left, and the calls, but not the notes.  The outcome of a
program follows from those of its parts, so that a program is described by
rewriting, one equation for each of its parts.
-/

namespace SqlAnywhere

/-- A run without its notes. -/
structure Outcome (Memory Failure Result : Type) where
  result : Except Failure Result
  memory : Memory
  calls : List Call

namespace Outcome

variable {Memory Failure Result Next : Type}

/-- An outcome with the calls of an earlier one before its own. -/
def following (earlier : List Call)
    (outcome : Outcome Memory Failure Result) :
    Outcome Memory Failure Result :=
  { outcome with calls := earlier ++ outcome.calls }

/--
The outcome of going on with a result, from the memory and after the calls
that come with it; a failure is the end.
-/
def andThen (outcome : Outcome Memory Failure Result)
    (next : Result → Memory → List Call → Outcome Memory Failure Next) :
    Outcome Memory Failure Next :=
  match outcome with
  | ⟨.error failure, memory, calls⟩ => ⟨.error failure, memory, calls⟩
  | ⟨.ok result, memory, calls⟩ => (next result memory calls).following calls

/-- An outcome with another result. -/
def withResult {Other : Type} (outcome : Outcome Memory Failure Result)
    (result : Except Other Next) : Outcome Memory Other Next :=
  ⟨result, outcome.memory, outcome.calls⟩

/-- An outcome with which a memory is left. -/
def withMemory {Other : Type} (outcome : Outcome Other Failure Result)
    (memory : Memory) : Outcome Memory Failure Result :=
  ⟨outcome.result, memory, outcome.calls⟩

/-- An outcome whose result, if it has one, is seen as another value. -/
def map (change : Result → Next)
    (outcome : Outcome Memory Failure Result) : Outcome Memory Failure Next :=
  outcome.withResult (outcome.result.map change)

/-- An outcome without a result. -/
def Fails (outcome : Outcome Memory Failure Result) : Prop :=
  ∃ failure, outcome.result = .error failure

instance (outcome : Outcome Memory Failure Result) :
    Decidable outcome.Fails :=
  match result : outcome.result with
  | .error failure => isTrue ⟨failure, result⟩
  | .ok _ => isFalse fun ⟨_, failed⟩ => nomatch result.symm.trans failed

/-- What is seen of a result does not bear on whether there is one. -/
theorem fails_map_iff {change : Result → Next}
    {outcome : Outcome Memory Failure Result} :
    (outcome.map change).Fails ↔ outcome.Fails := by
  obtain ⟨result, memory, calls⟩ := outcome
  cases result with
  | error failure => exact ⟨fun _ => ⟨_, rfl⟩, fun _ => ⟨_, rfl⟩⟩
  | ok value => exact ⟨nofun, nofun⟩

@[simp]
theorem following_mk (earlier calls : List Call)
    (result : Except Failure Result) (memory : Memory) :
    following earlier ⟨result, memory, calls⟩ =
      ⟨result, memory, earlier ++ calls⟩ := rfl

@[simp]
theorem following_nil (outcome : Outcome Memory Failure Result) :
    following [] outcome = outcome := rfl

@[simp]
theorem andThen_error (failure : Failure) (memory : Memory)
    (calls : List Call)
    (next : Result → Memory → List Call → Outcome Memory Failure Next) :
    andThen ⟨.error failure, memory, calls⟩ next =
      ⟨.error failure, memory, calls⟩ := rfl

@[simp]
theorem andThen_ok (result : Result) (memory : Memory) (calls : List Call)
    (next : Result → Memory → List Call → Outcome Memory Failure Next) :
    andThen ⟨.ok result, memory, calls⟩ next =
      (next result memory calls).following calls := rfl

/-- Seeing a result as another value is going on with that value. -/
theorem map_eq_andThen (change : Result → Next)
    (outcome : Outcome Memory Failure Result) :
    outcome.map change =
      outcome.andThen fun value memory _ => ⟨.ok (change value), memory, []⟩ := by
  obtain ⟨result, memory, calls⟩ := outcome
  cases result with
  | error failure => rfl
  | ok value =>
      rw [andThen_ok, following_mk, List.append_nil]
      rfl

/-- The calls of what comes first come first. -/
theorem exists_calls_andThen (outcome : Outcome Memory Failure Result)
    (next : Result → Memory → List Call → Outcome Memory Failure Next) :
    ∃ others, (outcome.andThen next).calls = outcome.calls ++ others := by
  obtain ⟨result, memory, calls⟩ := outcome
  cases result with
  | error failure => exact ⟨[], (List.append_nil calls).symm⟩
  | ok value => exact ⟨(next value memory calls).calls, rfl⟩

end Outcome

namespace Program

variable {Memory Failure First Second : Type}

/-- What a caller and the server see of the run of a program. -/
def outcome {Result : Type} (server : Server)
    (program : Program Memory Failure Result) (memory : Memory)
    (past : List Call) : Outcome Memory Failure Result :=
  let run := program.run server memory past
  ⟨run.result, run.memory, run.calls⟩

variable {server : Server} {memory : Memory} {past : List Call}

/-! ## Composition -/

@[simp]
theorem outcome_pure (value : First) :
    (pure value : Program Memory Failure First).outcome server memory past =
      ⟨.ok value, memory, []⟩ := rfl

/--
A program goes on with the result of its first part, from the memory and the
calls that this part leaves.
-/
theorem outcome_bind
    (first : Program Memory Failure First)
    (next : First → Program Memory Failure Second) :
    (first >>= next).outcome server memory past =
      (first.outcome server memory past).andThen
        fun value left calls =>
          (next value).outcome server left (past ++ calls) := by
  rw [outcome, outcome, run_bind]
  cases result : (first.run server memory past).result with
  | error failure =>
      simp only [result]
      rfl
  | ok value =>
      simp only [result, Run.calls_following]
      rfl

/--
Returning what a program gives as another value changes the result alone.
-/
theorem outcome_bind_pure
    (first : Program Memory Failure First) (change : First → Second) :
    (first >>= fun value => pure (change value)).outcome server memory past =
      (first.outcome server memory past).map change := by
  rw [outcome_bind]
  obtain ⟨result, left, calls⟩ := first.outcome server memory past
  cases result with
  | error failure => rfl
  | ok value =>
      rw [Outcome.andThen_ok, outcome_pure, Outcome.following_mk,
        List.append_nil]
      rfl

/-- Seeing a failure otherwise changes the result alone. -/
theorem outcome_mapFailure {Other : Type}
    (change : Failure → Other)
    (program : Program Memory Failure First) :
    (program.mapFailure change).outcome server memory past =
      let outcome := program.outcome server memory past
      outcome.withResult (outcome.result.mapError change) := by
  rw [outcome, run_mapFailure]
  rfl

/-- Attempting a program makes a result of its failure. -/
theorem outcome_attempt {Other : Type}
    (program : Program Memory Failure First) :
    (program.attempt : Program Memory Other _).outcome server memory past =
      let outcome := program.outcome server memory past
      outcome.withResult (.ok outcome.result) := by
  rw [outcome, run_attempt]
  rfl

/-! ## Instructions -/

@[simp]
theorem outcome_fail (failure : Failure) :
    (fail failure : Program Memory Failure First).outcome
        server memory past =
      ⟨.error failure, memory, []⟩ := rfl

@[simp]
theorem outcome_ofExcept (outcome : Except Failure First) :
    (ofExcept outcome).outcome server memory past = ⟨outcome, memory, []⟩ := by
  cases outcome <;> rfl

@[simp]
theorem outcome_log (level : LogLevel) (message : Text) :
    (log level message : Program Memory Failure Unit).outcome
        server memory past =
      ⟨.ok (), memory, []⟩ := rfl

@[simp]
theorem outcome_memory :
    (Program.memory : Program Memory Failure Memory).outcome
        server memory past =
      ⟨.ok memory, memory, []⟩ := rfl

@[simp]
theorem outcome_change (step : Memory → Memory) :
    (change step : Program Memory Failure Unit).outcome server memory past =
      ⟨.ok (), step memory, []⟩ := rfl

@[simp]
theorem outcome_rows (call : Call) :
    (rows call).outcome server memory past =
      ⟨server past call, memory, [call]⟩ := by
  rw [outcome, run_rows]
  rfl

/--
A question for a single value shows one call, and gives the first value of
the answer.
-/
theorem outcome_scalar (call : Call) :
    (scalar call).outcome server memory past =
      ⟨server past call >>= scalarOf, memory, [call]⟩ := by
  rw [scalar, outcome_bind, outcome_rows]
  cases server past call with
  | error failure => rfl
  | ok rows =>
      rw [Outcome.andThen_ok, outcome_ofExcept]
      rfl

end Program

end SqlAnywhere
