import SqlAnywhere.Catalog.Loader
import SqlAnywhere.Proofs.Exchange

/-!
# What a program guarantees among others

A program that shares its memory with others relies on what it may find there,
and guarantees something of each of its changes and of its result, by what it
has been answered so far.  What is composed of programs guarantees what they
do.  A program that only asks guarantees that its result is the one that its
answers lead to.  The loader is such a program.
-/

namespace SqlAnywhere.Program

variable {Memory Failure First Second : Type}

/-! ## Guarantees -/

/--
Whether a program, in memories that others may leave, makes changes and gives
results only as it should, by the exchanges before them.
-/
def Obeys (relies : Memory → Prop)
    (changes : List Exchange → (Memory → Memory) → Prop)
    (gives : List Exchange → First → Prop) :
    Program Memory Failure First → List Exchange → Prop
  | .done result, past => gives past result
  | .fail _, _ => True
  | .ask call next, past =>
      ∀ answer, (next answer).Obeys relies changes gives (past ++ [⟨call, answer⟩])
  | .note _ next, past => next.Obeys relies changes gives past
  | .consult next, past =>
      ∀ memory, relies memory → (next memory).Obeys relies changes gives past
  | .update change next, past =>
      changes past change ∧ next.Obeys relies changes gives past

section Rules

variable {relies : Memory → Prop}
  {changes : List Exchange → (Memory → Memory) → Prop}
  {past : List Exchange}

/-- What follows from the results that are guaranteed is guaranteed. -/
theorem Obeys.mono {gives gives' : List Exchange → First → Prop}
    {program : Program Memory Failure First}
    (obeys : program.Obeys relies changes gives past)
    (follows : ∀ past result, gives past result → gives' past result) :
    program.Obeys relies changes gives' past := by
  induction program generalizing past with
  | done result => exact follows past result obeys
  | fail failure => trivial
  | ask call next ih => exact fun answer => ih answer (obeys answer)
  | note entry next ih => exact ih obeys
  | consult next ih =>
      exact fun memory trusted => ih memory (obeys memory trusted)
  | update change next ih => exact ⟨obeys.1, ih obeys.2⟩

/--
A program that goes on with the result of another one guarantees what both
do.
-/
theorem Obeys.bind {between : List Exchange → First → Prop}
    {gives : List Exchange → Second → Prop}
    {first : Program Memory Failure First}
    {next : First → Program Memory Failure Second}
    (obeys : first.Obeys relies changes between past)
    (goesOn : ∀ past result, between past result →
      (next result).Obeys relies changes gives past) :
    (first >>= next).Obeys relies changes gives past := by
  change (first.andThen next).Obeys relies changes gives past
  induction first generalizing past with
  | done result => exact goesOn past result obeys
  | fail failure => trivial
  | ask call rest ih => exact fun answer => ih answer (obeys answer)
  | note entry rest ih => exact ih obeys
  | consult rest ih =>
      exact fun memory trusted => ih memory (obeys memory trusted)
  | update change rest ih => exact ⟨obeys.1, ih obeys.2⟩

theorem Obeys.mapFailure {Other : Type} {gives : List Exchange → First → Prop}
    {program : Program Memory Failure First}
    (obeys : program.Obeys relies changes gives past)
    (change : Failure → Other) :
    (program.mapFailure change).Obeys relies changes gives past := by
  induction program generalizing past with
  | done result => exact obeys
  | fail failure => trivial
  | ask call next ih => exact fun answer => ih answer (obeys answer)
  | note entry next ih => exact ih obeys
  | consult next ih =>
      exact fun memory trusted => ih memory (obeys memory trusted)
  | update step next ih => exact ⟨obeys.1, ih obeys.2⟩

/-- A memory that is looked at is one that can be relied on. -/
theorem obeys_memory :
    (Program.memory : Program Memory Failure Memory).Obeys relies changes
      (fun later memory => later = past ∧ relies memory) past :=
  fun _ trusted => ⟨rfl, trusted⟩

theorem obeys_ofExcept (outcome : Except Failure First) :
    (ofExcept outcome : Program Memory Failure First).Obeys relies changes
      (fun later result => later = past ∧ outcome = .ok result) past := by
  cases outcome with
  | error failure => trivial
  | ok result => exact ⟨rfl, rfl⟩

/-- A question for a single value gives the first value of the answer. -/
theorem obeys_scalar (call : Call) :
    (scalar call : Program Memory QueryError Value).Obeys relies changes
      (fun later value => ∃ answer,
        later = past ++ [⟨call, answer⟩] ∧ answer >>= scalarOf = .ok value)
      past := by
  intro answer
  cases answer with
  | error error => trivial
  | ok rows =>
      refine (obeys_ofExcept (scalarOf rows)).mono ?_
      rintro _ value ⟨rfl, first⟩
      exact ⟨.ok rows, rfl, first⟩

end Rules

/-! ## Programs that only ask -/

/-- Whether a program neither looks at the memory nor changes it. -/
inductive OnlyAsks : Program Memory Failure First → Prop where
  | done (result : First) : OnlyAsks (.done result)
  | fail (failure : Failure) : OnlyAsks (.fail failure)
  | ask {call : Call} {next : Answer → Program Memory Failure First}
      (later : ∀ answer, OnlyAsks (next answer)) : OnlyAsks (.ask call next)
  | note {entry : LogEntry} {next : Program Memory Failure First}
      (later : OnlyAsks next) : OnlyAsks (.note entry next)

/-- What a program comes to when its questions are answered in turn. -/
inductive Answered :
    Program Memory Failure First → List Exchange →
      Program Memory Failure First → Prop where
  | refl (program : Program Memory Failure First) :
      Answered program [] program
  | ask {call : Call} {answer : Answer} {exchanges : List Exchange}
      {next : Answer → Program Memory Failure First}
      {rest : Program Memory Failure First}
      (later : Answered (next answer) exchanges rest) :
      Answered (.ask call next) (⟨call, answer⟩ :: exchanges) rest
  | note {entry : LogEntry} {exchanges : List Exchange}
      {next rest : Program Memory Failure First}
      (later : Answered next exchanges rest) :
      Answered (.note entry next) exchanges rest

/-- A program that only asks gives what its answers lead to. -/
theorem OnlyAsks.obeys {program : Program Memory Failure First}
    (asks : program.OnlyAsks) (relies : Memory → Prop)
    (changes : List Exchange → (Memory → Memory) → Prop)
    (past : List Exchange) :
    program.Obeys relies changes
      (fun later result => ∃ exchanges, later = past ++ exchanges ∧
        program.Answered exchanges (.done result)) past := by
  induction asks generalizing past with
  | done result => exact ⟨[], (List.append_nil past).symm, .refl _⟩
  | fail failure => trivial
  | @ask call next _ ih =>
      intro answer
      refine (ih answer (past ++ [⟨call, answer⟩])).mono ?_
      rintro _ result ⟨exchanges, rfl, answered⟩
      exact ⟨⟨call, answer⟩ :: exchanges, by simp, .ask answered⟩
  | @note entry next _ ih =>
      refine (ih past).mono ?_
      rintro _ result ⟨exchanges, rfl, answered⟩
      exact ⟨exchanges, rfl, .note answered⟩

/--
A program that only asks changes nothing, whatever else it is to guarantee.
-/
theorem OnlyAsks.obeys_always {program : Program Memory Failure First}
    (asks : program.OnlyAsks) (relies : Memory → Prop)
    (changes : List Exchange → (Memory → Memory) → Prop)
    (past : List Exchange) :
    program.Obeys relies changes (fun _ _ => True) past :=
  (asks.obeys relies changes past).mono fun _ _ _ => trivial

/-- What is composed of programs that only ask only asks. -/
theorem OnlyAsks.bind {first : Program Memory Failure First}
    {next : First → Program Memory Failure Second}
    (asks : first.OnlyAsks) (goesOn : ∀ result, (next result).OnlyAsks) :
    (first >>= next).OnlyAsks := by
  change (first.andThen next).OnlyAsks
  induction asks with
  | done result => exact goesOn result
  | fail failure => exact .fail failure
  | ask _ ih => exact .ask ih
  | note _ ih => exact .note ih

theorem OnlyAsks.mapFailure {Other : Type}
    {program : Program Memory Failure First} (asks : program.OnlyAsks)
    (change : Failure → Other) : (program.mapFailure change).OnlyAsks := by
  induction asks with
  | done result => exact .done result
  | fail failure => exact .fail (change failure)
  | ask _ ih => exact .ask ih
  | note _ ih => exact .note ih

theorem OnlyAsks.attempt {Other : Type}
    {program : Program Memory Failure First} (asks : program.OnlyAsks) :
    (program.attempt :
      Program Memory Other (Except Failure First)).OnlyAsks := by
  induction asks with
  | done result => exact .done _
  | fail failure => exact .done _
  | ask _ ih => exact .ask ih
  | note _ ih => exact .note ih

theorem onlyAsks_ofExcept (outcome : Except Failure First) :
    (ofExcept outcome : Program Memory Failure First).OnlyAsks := by
  cases outcome with
  | ok result => exact .done result
  | error failure => exact .fail failure

theorem onlyAsks_log (level : LogLevel) (message : Text) :
    (log level message : Program Memory Failure Unit).OnlyAsks :=
  .note (.done ())

theorem onlyAsks_rows (call : Call) :
    (rows call : Program Memory QueryError (List Row)).OnlyAsks :=
  .ask onlyAsks_ofExcept

theorem onlyAsks_scalar (call : Call) :
    (scalar call : Program Memory QueryError Value).OnlyAsks :=
  (onlyAsks_rows call).bind fun _ => onlyAsks_ofExcept _

end SqlAnywhere.Program

namespace SqlAnywhere.Loader

open Program

variable {Memory : Type}

/-! ## The loader -/

theorem onlyAsks_checkOwners (table : TableName) :
    (checkOwners table : Program Memory CatalogError Unit).OnlyAsks := by
  have counts : (ownerCount table.name :
      Program Memory QueryError Int64).OnlyAsks := by
    refine (onlyAsks_scalar _).bind fun count => ?_
    cases count.toInt64? with
    | none => exact .fail _
    | some owners => exact (onlyAsks_log _ _).bind fun _ => .done owners
  refine (counts.mapFailure _).bind fun owners => ?_
  split
  · exact .fail _
  · exact .done ()

theorem onlyAsks_columns (family : ServerFamily) (table : TableName)
    (key : List Text) :
    (columns family table key :
      Program Memory QueryError (List Column)).OnlyAsks := by
  refine (onlyAsks_rows _).bind fun rows => ?_
  induction rows with
  | nil => exact .done []
  | cons row rows ih =>
      refine (onlyAsks_ofExcept _).bind fun first => ?_
      have noted : (noteType first.typeName :
          Program Memory QueryError Unit).OnlyAsks := by
        rw [noteType]
        split
        · exact .done ()
        · exact onlyAsks_log _ _
      exact noted.bind fun _ => ih.bind fun columns => .done _

theorem onlyAsks_complete (family : ServerFamily) (name : TableName)
    (key : List Text) (columns : List Column) :
    (complete family name key columns :
      Program Memory CatalogError Table).OnlyAsks := by
  have linked : (foreignKeys family name :
      Program Memory QueryError (List ForeignKey)).OnlyAsks :=
    (onlyAsks_rows _).bind fun _ => onlyAsks_ofExcept _
  exact (linked.mapFailure _).bind fun keys =>
    (onlyAsks_log _ _).bind fun _ => .done _

theorem onlyAsks_describe (family : ServerFamily) (name : TableName) :
    (describe family name :
      Program Memory CatalogError (Option Table)).OnlyAsks := by
  have keyed : (primaryKey family name :
      Program Memory QueryError (List Text)).OnlyAsks :=
    (onlyAsks_rows _).bind fun _ => onlyAsks_ofExcept _
  refine (keyed.mapFailure _).bind fun key => ?_
  refine (onlyAsks_columns family name key).attempt.bind fun found => ?_
  rcases found with error | _ | ⟨first, others⟩
  · exact (onlyAsks_log _ _).bind fun _ => .done none
  · exact (onlyAsks_log _ _).bind fun _ => .done none
  · exact (onlyAsks_complete _ _ _ _).bind fun table => .done (some table)

/-- The loader neither looks at the memory nor changes it. -/
theorem onlyAsks_load (family : ServerFamily) (defaultOwner reference : Text) :
    (load family defaultOwner reference :
      Program Memory CatalogError (Option Table)).OnlyAsks := by
  rw [load]
  split
  · exact (onlyAsks_checkOwners _).bind fun _ => onlyAsks_describe family _
  · exact onlyAsks_describe family _

theorem onlyAsks_tableNames (family : ServerFamily)
    (defaultOwner owner : Text) :
    (tableNames family defaultOwner owner :
      Program Memory CatalogError (List Text)).OnlyAsks :=
  ((onlyAsks_rows _).mapFailure _).bind fun _ =>
    (onlyAsks_ofExcept _).bind fun _ =>
      (onlyAsks_log _ _).bind fun _ => .done _

end SqlAnywhere.Loader
