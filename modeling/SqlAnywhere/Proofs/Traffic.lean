import SqlAnywhere.Proofs.Exchange
import SqlAnywhere.Proofs.SessionHistory

/-!
# Operations on their way

Several operations of a session can be on their way at a time.  Each of them
does one thing after the other: it asks the server, writes a note, looks at
the memory or changes it.  Between any two of these the others can go on.  A
list of moves tells which operation begins or goes on next, and what the
server answers if it is asked, so that all orders of the operations and all
answers of a server that changes are told by the lists of moves.

An operation that goes on alone does what its outcome says.
-/

namespace SqlAnywhere

variable {Cache : Type}

/-! ## Programs that change nothing any more -/

/--
Whether a program leaves the memory, whatever it is answered and finds there.
-/
inductive Program.Settled {Memory Failure Result : Type} :
    Program Memory Failure Result → Prop where
  | done (result : Result) : Settled (.done result)
  | fail (failure : Failure) : Settled (.fail failure)
  | ask {call : Call} {next : Answer → Program Memory Failure Result}
      (later : ∀ answer, Settled (next answer)) : Settled (.ask call next)
  | note {entry : LogEntry} {next : Program Memory Failure Result}
      (later : Settled next) : Settled (.note entry next)
  | consult {next : Memory → Program Memory Failure Result}
      (later : ∀ memory, Settled (next memory)) : Settled (.consult next)

/-! ## One operation -/

/--
An operation on its way: what it asked and was answered, and what it has yet
to do.
-/
structure Flight (Cache : Type) where
  operation : Operation
  exchanges : List Exchange
  rest : Program (Memory Cache) CatalogError Reply

namespace Flight

/-- An operation that begins. -/
def start [TableCache Cache] (session : Session Cache)
    (operation : Operation) : Flight Cache :=
  ⟨operation, [], operation.program session⟩

/--
The memory and the operation after its next step; if that is a question, the
answer is taken.
-/
def advance (memory : Memory Cache) (answer : Answer) (flight : Flight Cache) :
    Memory Cache × Flight Cache :=
  match flight.rest with
  | .done _ | .fail _ => (memory, flight)
  | .ask call next =>
      (memory,
        { flight with
          exchanges := flight.exchanges ++ [⟨call, answer⟩]
          rest := next answer })
  | .note _ next => (memory, { flight with rest := next })
  | .consult next => (memory, { flight with rest := next memory })
  | .update change next => (change memory, { flight with rest := next })

/--
What stays of an operation while it goes on: what it is and what it was
answered, and that it changes nothing any more.
-/
structure GoesOn (flight later : Flight Cache) : Prop where
  operation : later.operation = flight.operation
  exchanges : flight.exchanges <+: later.exchanges
  settled : flight.rest.Settled → later.rest.Settled

theorem goesOn_refl (flight : Flight Cache) : flight.GoesOn flight :=
  ⟨rfl, List.prefix_rfl, id⟩

theorem GoesOn.trans {first second third : Flight Cache}
    (earlier : first.GoesOn second) (later : second.GoesOn third) :
    first.GoesOn third :=
  ⟨later.operation.trans earlier.operation,
    earlier.exchanges.trans later.exchanges,
    fun settled => later.settled (earlier.settled settled)⟩

theorem goesOn_advance
    (memory : Memory Cache) (answer : Answer) (flight : Flight Cache) :
    flight.GoesOn (flight.advance memory answer).2 := by
  obtain ⟨operation, exchanges, rest⟩ := flight
  cases rest with
  | done | fail => exact goesOn_refl _
  | ask call next =>
      refine ⟨rfl, List.prefix_append _ _, ?_⟩
      rintro ⟨⟩
      next later => exact later answer
  | note entry next =>
      refine ⟨rfl, List.prefix_rfl, ?_⟩
      rintro ⟨⟩
      assumption
  | consult next =>
      refine ⟨rfl, List.prefix_rfl, ?_⟩
      rintro ⟨⟩
      next later => exact later memory
  | update change next => exact ⟨rfl, List.prefix_rfl, nofun⟩

end Flight

/-! ## Several operations -/

/--
The memory of a session and its operations, in the order in which they began.
-/
structure Traffic (Cache : Type) where
  memory : Memory Cache
  flights : List (Flight Cache)

/-- What happens next in a session. -/
inductive Move where
  | start (operation : Operation)
  /-- The next step of the operation at a place, with the answer if it asks. -/
  | advance (place : Nat) (answer : Answer)

/--
The next steps of the operation at a place, with the answers to its
questions.
-/
def Move.steps (place : Nat) (answers : List Answer) : List Move :=
  answers.map (.advance place)

namespace Traffic

variable [TableCache Cache] (session : Session Cache)

/-- The traffic after a move. -/
def move (traffic : Traffic Cache) : Move → Traffic Cache
  | .start operation =>
      { traffic with flights := traffic.flights ++ [.start session operation] }
  | .advance place answer =>
      match traffic.flights[place]? with
      | none => traffic
      | some flight =>
          let moved := flight.advance traffic.memory answer
          ⟨moved.1, traffic.flights.set place moved.2⟩

/-- The traffic after several moves. -/
def through (traffic : Traffic Cache) (moves : List Move) : Traffic Cache :=
  moves.foldl (move session) traffic

/-- The traffic after moves from the beginning of a session. -/
def after (moves : List Move) : Traffic Cache :=
  through session ⟨session.start, []⟩ moves

variable {session} {traffic : Traffic Cache}

@[simp]
theorem through_nil : through session traffic [] = traffic := rfl

@[simp]
theorem through_cons (move : Move) (moves : List Move) :
    through session traffic (move :: moves) =
      through session (traffic.move session move) moves := rfl

theorem through_append (moves others : List Move) :
    through session traffic (moves ++ others) =
      through session (through session traffic moves) others :=
  List.foldl_append

theorem after_append (moves others : List Move) :
    after session (moves ++ others) =
      through session (after session moves) others :=
  through_append moves others

/-! ## What a move does -/

/--
An operation after a move is as before, or has taken its next step, or
begins.
-/
theorem flights_move {move : Move} {place : Nat} {flight : Flight Cache}
    (there : (traffic.move session move).flights[place]? = some flight) :
    traffic.flights[place]? = some flight ∨
      (∃ earlier answer, move = .advance place answer ∧
        traffic.flights[place]? = some earlier ∧
        flight = (earlier.advance traffic.memory answer).2) ∨
      ∃ operation, move = .start operation ∧
        place = traffic.flights.length ∧
          flight = .start session operation := by
  cases move with
  | start operation =>
      rw [Traffic.move, List.getElem?_append] at there
      split at there
      · exact .inl there
      · next beyond =>
          rw [List.getElem?_singleton] at there
          split at there
          · next last =>
              exact .inr (.inr ⟨operation, rfl, by omega,
                (Option.some.inj there).symm⟩)
          · cases there
  | advance moved answer =>
      rw [Traffic.move] at there
      split at there
      · exact .inl there
      · next earlier found =>
          rw [List.getElem?_set] at there
          split at there
          · next here =>
              subst here
              rw [if_pos (List.getElem?_eq_some_iff.1 found).1] at there
              exact .inr (.inl ⟨earlier, answer, rfl, found,
                (Option.some.inj there).symm⟩)
          · exact .inl there

/--
A move leaves the memory, or makes the change that an operation comes to.
-/
theorem memory_move (traffic : Traffic Cache) (move : Move) :
    (traffic.move session move).memory = traffic.memory ∨
      ∃ place answer flight change next,
        move = .advance place answer ∧
          traffic.flights[place]? = some flight ∧
          flight.rest = .update change next ∧
          (traffic.move session move).memory = change traffic.memory := by
  cases move with
  | start operation => exact .inl rfl
  | advance place answer =>
      rw [Traffic.move]
      split
      · exact .inl rfl
      · next flight found =>
          cases rest : flight.rest with
          | update change next =>
              refine .inr ⟨place, answer, flight, change, next, rfl, found,
                rest, ?_⟩
              simp only [Flight.advance, rest]
          | _ => simp only [Flight.advance, rest, true_or]

/-- The memory after the next step of an operation. -/
theorem memory_advance {place : Nat} {flight : Flight Cache} {answer : Answer}
    (there : traffic.flights[place]? = some flight) :
    (traffic.move session (.advance place answer)).memory =
      (flight.advance traffic.memory answer).1 := by
  simp only [move, there]

/-- No operation leaves the traffic. -/
theorem exists_goesOn_move {place : Nat} {flight : Flight Cache}
    (there : traffic.flights[place]? = some flight) (move : Move) :
    ∃ later, (traffic.move session move).flights[place]? = some later ∧
      flight.GoesOn later := by
  cases move with
  | start operation =>
      refine ⟨flight, ?_, flight.goesOn_refl⟩
      exact List.getElem?_append_left
        (List.getElem?_eq_some_iff.1 there).1 ▸ there
  | advance moved answer =>
      rw [Traffic.move]
      split
      · exact ⟨flight, there, flight.goesOn_refl⟩
      · next earlier found =>
          rw [List.getElem?_set]
          split
          · next here =>
              subst here
              obtain rfl : earlier = flight :=
                Option.some.inj (found.symm.trans there)
              exact ⟨_, if_pos (List.getElem?_eq_some_iff.1 found).1,
                earlier.goesOn_advance traffic.memory answer⟩
          · exact ⟨flight, there, flight.goesOn_refl⟩

/-- No operation leaves the traffic, however it goes on. -/
theorem exists_goesOn_through {place : Nat} {flight : Flight Cache}
    (there : traffic.flights[place]? = some flight) (moves : List Move) :
    ∃ later, (through session traffic moves).flights[place]? = some later ∧
      flight.GoesOn later := by
  induction moves generalizing traffic flight with
  | nil => exact ⟨flight, there, flight.goesOn_refl⟩
  | cons move moves ih =>
      obtain ⟨next, found, first⟩ := exists_goesOn_move there move
      obtain ⟨later, reached, others⟩ := ih found
      exact ⟨later, reached, first.trans others⟩

/-! ## An operation that goes on alone -/

/-- The next step of the operation that began last. -/
theorem move_last (memory : Memory Cache) (others : List (Flight Cache))
    (flight : Flight Cache) (answer : Answer) :
    move session ⟨memory, others ++ [flight]⟩
        (.advance others.length answer) =
      ⟨(flight.advance memory answer).1,
        others ++ [(flight.advance memory answer).2]⟩ := by
  simp [move]

/--
The operation that began last, when it goes on alone, leaves the memory and
the result of its outcome, and its exchanges are the calls of that outcome
with the answers of the server.
-/
theorem exists_through_eq_outcome (server : Server) (past : List Call)
    (memory : Memory Cache) (others : List (Flight Cache))
    (operation : Operation) (exchanges : List Exchange)
    (program : Program (Memory Cache) CatalogError Reply) :
    let outcome := program.outcome server memory past
    ∃ answers : List Answer,
      through session ⟨memory, others ++ [⟨operation, exchanges, program⟩]⟩
          (Move.steps others.length answers) =
        ⟨outcome.memory,
          others ++
            [⟨operation, exchanges ++ server.exchanges past outcome.calls,
              .ofExcept outcome.result⟩]⟩ := by
  have ended (exchanges : List Exchange) (memory : Memory Cache)
      (rest : Program (Memory Cache) CatalogError Reply) :
      Traffic.mk memory (others ++ [⟨operation, exchanges, rest⟩]) =
        ⟨memory, others ++ [⟨operation, exchanges ++ [], rest⟩]⟩ := by
    rw [List.append_nil]
  induction program generalizing memory past exchanges with
  | done result => exact ⟨[], ended exchanges memory (.done result)⟩
  | fail failure => exact ⟨[], ended exchanges memory (.fail failure)⟩
  | ask call next ih =>
      obtain ⟨answers, reached⟩ :=
        ih (server past call) (past ++ [call]) memory
          (exchanges ++ [⟨call, server past call⟩])
      refine ⟨server past call :: answers, ?_⟩
      rw [Move.steps, List.map_cons, through_cons, move_last]
      rw [List.append_assoc] at reached
      exact reached
  | note entry next ih =>
      obtain ⟨answers, reached⟩ := ih past memory exchanges
      refine ⟨.ok [] :: answers, ?_⟩
      rw [Move.steps, List.map_cons, through_cons, move_last]
      exact reached
  | consult next ih =>
      obtain ⟨answers, reached⟩ := ih memory past memory exchanges
      refine ⟨.ok [] :: answers, ?_⟩
      rw [Move.steps, List.map_cons, through_cons, move_last]
      exact reached
  | update change next ih =>
      obtain ⟨answers, reached⟩ := ih past (change memory) exchanges
      refine ⟨.ok [] :: answers, ?_⟩
      rw [Move.steps, List.map_cons, through_cons, move_last]
      exact reached

/--
Operations that go on one after the other leave the memory of their last
stage, and their exchanges are the calls before that stage with the answers
of the server.
-/
theorem exists_after_eq_stage (server : Server) (operations : List Operation) :
    let stage := Stage.after server session operations
    ∃ moves flights,
      after session moves = ⟨stage.memory, flights⟩ ∧
        flights.map Flight.operation = operations ∧
        flights.flatMap Flight.exchanges = server.exchanges [] stage.past := by
  induction operations using List.reverseRecOn with
  | nil => exact ⟨[], [], rfl, rfl, rfl⟩
  | append_singleton operations operation ih =>
      obtain ⟨moves, flights, reached, begun, asked⟩ := ih
      rw [Stage.after_concat]
      generalize Stage.after server session operations = stage at *
      obtain ⟨answers, ended⟩ :=
        exists_through_eq_outcome server stage.past stage.memory flights
          operation [] (operation.program session)
      let outcome := operation.outcome server session stage
      refine ⟨moves ++ .start operation :: Move.steps flights.length answers,
        flights ++ [⟨operation, server.exchanges stage.past outcome.calls,
          .ofExcept outcome.result⟩], ?_, ?_, ?_⟩
      · rw [after_append, reached, through_cons]
        exact ended
      · rw [List.map_append, begun]
        rfl
      · rw [List.flatMap_append, asked, List.flatMap_singleton, Stage.next,
          Server.exchanges_append]
        rfl

end Traffic

end SqlAnywhere
