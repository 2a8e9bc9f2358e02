import SqlAnywhere.Catalog.Query
import SqlAnywhere.Query.Row

/-!
# Programs

What the library does with a server is a program: a tree of questions to the
server, notes for the log, and accesses to a memory that programs share.  A
program does one of these at a time and goes on with the answer, so that
several programs can also take turns.
-/

namespace SqlAnywhere

/-- How much attention a note deserves. -/
inductive LogLevel where
  | debug
  | info
  | warn
deriving DecidableEq

/-- A note for the log. -/
structure LogEntry where
  level : LogLevel
  message : Text
deriving DecidableEq

/-- What a server answers to a call: rows, or a failure. -/
abbrev Answer := Except QueryError (List Row)

/-- A server's answer to a call after the calls before it. -/
abbrev Server := List Call → Call → Answer

/-- A tree of questions, notes and accesses to a memory. -/
inductive Program (Memory Failure Result : Type) where
  | done (result : Result)
  | fail (failure : Failure)
  /-- Puts a call to the server and goes on with its answer. -/
  | ask (call : Call) (next : Answer → Program Memory Failure Result)
  | note (entry : LogEntry) (next : Program Memory Failure Result)
  /-- Looks at the memory. -/
  | consult (next : Memory → Program Memory Failure Result)
  /-- Changes the memory. -/
  | update (change : Memory → Memory) (next : Program Memory Failure Result)

namespace Program

variable {Memory Failure : Type}

/-- A program that goes on with the result of another one. -/
def andThen {First Second : Type} :
    Program Memory Failure First →
      (First → Program Memory Failure Second) →
      Program Memory Failure Second
  | .done result, next => next result
  | .fail failure, _ => .fail failure
  | .ask call rest, next => .ask call fun answer => (rest answer).andThen next
  | .note entry rest, next => .note entry (rest.andThen next)
  | .consult rest, next => .consult fun memory => (rest memory).andThen next
  | .update change rest, next => .update change (rest.andThen next)

instance : Monad (Program Memory Failure) where
  pure := .done
  bind := andThen

/-- A program whose failures are seen as others. -/
def mapFailure {Other Result : Type} (change : Failure → Other) :
    Program Memory Failure Result → Program Memory Other Result
  | .done result => .done result
  | .fail failure => .fail (change failure)
  | .ask call rest => .ask call fun answer => (rest answer).mapFailure change
  | .note entry rest => .note entry (rest.mapFailure change)
  | .consult rest => .consult fun memory => (rest memory).mapFailure change
  | .update step rest => .update step (rest.mapFailure change)

/-- A program that has the failure of another one as its result. -/
def attempt {Other Result : Type} :
    Program Memory Failure Result →
      Program Memory Other (Except Failure Result)
  | .done result => .done (.ok result)
  | .fail failure => .done (.error failure)
  | .ask call rest => .ask call fun answer => (rest answer).attempt
  | .note entry rest => .note entry rest.attempt
  | .consult rest => .consult fun memory => (rest memory).attempt
  | .update change rest => .update change rest.attempt

/-- A program that does nothing and has a given outcome. -/
def ofExcept {Result : Type} :
    Except Failure Result → Program Memory Failure Result
  | .ok result => .done result
  | .error failure => .fail failure

/-- The program that writes a note. -/
def log (level : LogLevel) (message : Text) : Program Memory Failure Unit :=
  .note ⟨level, message⟩ (.done ())

/-- The program that looks at the memory. -/
def memory : Program Memory Failure Memory :=
  .consult .done

/-- The program that changes the memory. -/
def change (step : Memory → Memory) : Program Memory Failure Unit :=
  .update step (.done ())

/-- The program that asks for the rows of a call. -/
def rows (call : Call) : Program Memory QueryError (List Row) :=
  .ask call ofExcept

/-- The first value of the first row of an answer. -/
def scalarOf (rows : List Row) : Except QueryError Value :=
  match rows.head?.bind Row.first? with
  | some value => .ok value
  | none => .error (.unexpectedAnswer .noRows)

/-- The program that asks for the single value of a call. -/
def scalar (call : Call) : Program Memory QueryError Value := do
  let rows ← rows call
  ofExcept (scalarOf rows)

end Program

end SqlAnywhere
