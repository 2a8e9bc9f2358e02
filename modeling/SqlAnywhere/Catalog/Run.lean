import SqlAnywhere.Catalog.Program

/-!
# Runs

Running a program alone gives its result, the memory after it, and its events
in order.  The main statements say how the run of a composed program is made
of the runs of its parts.
-/

namespace SqlAnywhere

/-- What a run shows to the outside. -/
inductive Event where
  | asked (call : Call)
  | noted (entry : LogEntry)
deriving DecidableEq

/--
The outcome of a run: its result, the memory after it, and its events in
order.
-/
structure Run (Memory Failure Result : Type) where
  result : Except Failure Result
  memory : Memory
  events : List Event

namespace Run

variable {Memory Failure Result : Type}

/-- A run with an event before its others. -/
def after (event : Event) (run : Run Memory Failure Result) :
    Run Memory Failure Result :=
  { run with events := event :: run.events }

/-- The calls of a run in order. -/
def calls (run : Run Memory Failure Result) : List Call :=
  run.events.filterMap fun
    | .asked call => some call
    | .noted _ => none

/-- The notes of a run in order. -/
def notes (run : Run Memory Failure Result) : List LogEntry :=
  run.events.filterMap fun
    | .asked _ => none
    | .noted entry => some entry

/-- A run with the events of an earlier one before its own. -/
def following {Earlier : Type} (earlier : Run Memory Failure Earlier)
    (later : Run Memory Failure Result) : Run Memory Failure Result :=
  { later with events := earlier.events ++ later.events }

/-- A run with another result. -/
def withResult {Other Value : Type} (run : Run Memory Failure Result)
    (result : Except Other Value) : Run Memory Other Value :=
  ⟨result, run.memory, run.events⟩

@[simp]
theorem calls_after_asked (call : Call) (run : Run Memory Failure Result) :
    (run.after (.asked call)).calls = call :: run.calls := rfl

@[simp]
theorem calls_after_noted (entry : LogEntry)
    (run : Run Memory Failure Result) :
    (run.after (.noted entry)).calls = run.calls := rfl

@[simp]
theorem calls_following {Earlier : Type}
    (earlier : Run Memory Failure Earlier)
    (later : Run Memory Failure Result) :
    (following earlier later).calls = earlier.calls ++ later.calls := by
  simp [following, calls]

end Run

/--
The run of a program alone on a server, after the calls that were put to it
before.
-/
def Program.run {Memory Failure Result : Type} (server : Server) :
    Program Memory Failure Result → Memory → List Call →
      Run Memory Failure Result
  | .done result, memory, _ => ⟨.ok result, memory, []⟩
  | .fail failure, memory, _ => ⟨.error failure, memory, []⟩
  | .ask call next, memory, past =>
      ((next (server past call)).run server memory (past ++ [call])).after
        (.asked call)
  | .note entry next, memory, past =>
      (next.run server memory past).after (.noted entry)
  | .consult next, memory, past => (next memory).run server memory past
  | .update change next, memory, past => next.run server (change memory) past

namespace Program

variable {Memory Failure First Second : Type}

/--
A program goes on with the result of another one from the memory and the
calls that this one leaves, and not at all if this one fails.
-/
theorem run_bind
    (server : Server)
    (first : Program Memory Failure First)
    (next : First → Program Memory Failure Second)
    (memory : Memory) (past : List Call) :
    (first >>= next).run server memory past =
      let run := first.run server memory past
      match run.result with
      | .error failure => run.withResult (.error failure)
      | .ok result =>
          run.following
            ((next result).run server run.memory (past ++ run.calls)) := by
  change (first.andThen next).run server memory past = _
  induction first generalizing memory past with
  | done result => simp [andThen, run, Run.following, Run.calls]
  | fail failure => rfl
  | ask call rest same =>
      simp only [andThen, run, same]
      generalize (rest (server past call)).run server memory
        (past ++ [call]) = later
      obtain ⟨result, left, events⟩ := later
      cases result <;>
        simp [Run.after, Run.following, Run.withResult, Run.calls]
  | note entry rest same =>
      simp only [andThen, run, same]
      generalize rest.run server memory past = later
      obtain ⟨result, left, events⟩ := later
      cases result <;>
        simp [Run.after, Run.following, Run.withResult, Run.calls]
  | consult rest same => simp only [andThen, run, same]
  | update change rest same => simp only [andThen, run, same]

/-- Changing how a failure is seen changes the result of a run alone. -/
theorem run_mapFailure {Other : Type}
    (server : Server)
    (change : Failure → Other)
    (program : Program Memory Failure First)
    (memory : Memory) (past : List Call) :
    (program.mapFailure change).run server memory past =
      let run := program.run server memory past
      run.withResult (run.result.mapError change) := by
  induction program generalizing memory past with
  | done result => rfl
  | fail failure => rfl
  | ask call rest same =>
      simp only [mapFailure, run, same]
      rfl
  | note entry rest same =>
      simp only [mapFailure, run, same]
      rfl
  | consult rest same => simp only [mapFailure, run, same]
  | update step rest same => simp only [mapFailure, run, same]

/-- Attempting a program makes the outcome of its run the result. -/
theorem run_attempt {Other : Type}
    (server : Server)
    (program : Program Memory Failure First)
    (memory : Memory) (past : List Call) :
    (program.attempt : Program Memory Other _).run server memory past =
      let run := program.run server memory past
      run.withResult (.ok run.result) := by
  induction program generalizing memory past with
  | done result => rfl
  | fail failure => rfl
  | ask call rest same =>
      simp only [attempt, run, same]
      rfl
  | note entry rest same =>
      simp only [attempt, run, same]
      rfl
  | consult rest same => simp only [attempt, run, same]
  | update change rest same => simp only [attempt, run, same]

@[simp]
theorem run_ofExcept
    (server : Server)
    (outcome : Except Failure First)
    (memory : Memory) (past : List Call) :
    (ofExcept outcome).run server memory past = ⟨outcome, memory, []⟩ := by
  cases outcome <;> rfl

@[simp]
theorem run_log
    (server : Server)
    (level : LogLevel) (message : Text)
    (memory : Memory) (past : List Call) :
    (log level message : Program Memory Failure Unit).run server memory past =
      ⟨.ok (), memory, [.noted ⟨level, message⟩]⟩ := rfl

/-- A question shows one call, and its outcome is the answer. -/
@[simp]
theorem run_rows
    (server : Server)
    (call : Call)
    (memory : Memory) (past : List Call) :
    (rows call).run server memory past =
      ⟨server past call, memory, [.asked call]⟩ := by
  simp [rows, run, Run.after]

end Program

end SqlAnywhere
