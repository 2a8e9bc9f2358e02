import SqlAnywhere.Proofs.SessionGuarantee
import SqlAnywhere.Proofs.Traffic

/-!
# What the operations on their way keep

Each operation on its way relies on what the memory vouches for, and so do
all of them at every moment.  What holds of the memory therefore holds after
a move if it holds after each change that an operation can come to.  Whether
the answers that something was loaded from are those of an operation is
judged by what that operation was answered in the end, so that it is judged
alike at every moment.
-/

namespace SqlAnywhere

variable {Cache : Type}

/-! ## One operation -/

namespace Flight

/-- What an operation that is over replied, unless it failed. -/
def reply? (flight : Flight Cache) : Option Reply :=
  match flight.rest with
  | .done reply => some reply
  | _ => none

/-- The table that an operation replied, if it replied one. -/
def table? (flight : Flight Cache) : Option Table :=
  match flight.reply? with
  | some (.table table) => table
  | _ => none

theorem reply?_of_table? {flight : Flight Cache} {table : Table}
    (given : flight.table? = some table) :
    flight.reply? = some (.table (some table)) := by
  rw [table?] at given
  split at given
  · next replied => rw [replied, given]
  · cases given

variable [TableCache Cache]

/-- Whether what is left of an operation guarantees what its program does. -/
def Obeys (session : Session Cache) (entries : Text → Option Table → Prop)
    (known : ServerFamily → Prop) (flight : Flight Cache) : Prop :=
  flight.rest.Obeys (Memory.Vouches entries known)
    (session.Writes known flight.operation)
    (session.Replies entries known flight.operation) flight.exchanges

variable {session : Session Cache} {entries : Text → Option Table → Prop}
  {known : ServerFamily → Prop} {flight : Flight Cache} {memory : Memory Cache}

theorem obeys_start (operation : Operation) :
    (start session operation).Obeys session entries known :=
  session.obeys_program entries known operation

/-- The next step leaves an operation that guarantees the same. -/
theorem Obeys.advance (obeys : flight.Obeys session entries known)
    (vouches : memory.Vouches entries known) (answer : Answer) :
    (flight.advance memory answer).2.Obeys session entries known := by
  obtain ⟨operation, exchanges, rest⟩ := flight
  cases rest with
  | done | fail => exact obeys
  | ask call next => exact obeys answer
  | note entry next => exact obeys
  | consult next => exact obeys memory vouches
  | update change next => exact obeys.2

/-- A change that an operation comes to is one that it may make. -/
theorem Obeys.writes {change : Memory Cache → Memory Cache}
    {next : Program (Memory Cache) CatalogError Reply}
    (obeys : flight.Obeys session entries known)
    (rest : flight.rest = .update change next) :
    session.Writes known flight.operation flight.exchanges change := by
  rw [Obeys, rest] at obeys
  exact obeys.1

theorem Obeys.replies {reply : Reply}
    (obeys : flight.Obeys session entries known)
    (replied : flight.reply? = some reply) :
    session.Replies entries known flight.operation flight.exchanges reply := by
  obtain ⟨operation, exchanges, rest⟩ := flight
  cases rest with
  | done result =>
      cases replied
      exact obeys
  | _ => cases replied

end Flight

variable [TableCache Cache]

/-! ## What a change leaves -/

/--
A memory that vouches for something still does after a change of an
operation, if what the operation found out about the family and the table
that it loaded are vouched for.
-/
theorem Memory.Vouches.write {session : Session Cache}
    {entries : Text → Option Table → Prop} {known found : ServerFamily → Prop}
    {memory : Memory Cache} {operation : Operation} {exchanges : List Exchange}
    {change : Memory Cache → Memory Cache}
    (vouches : memory.Vouches entries known)
    (writes : session.Writes found operation exchanges change)
    (pinned : ∀ family, session.pinned = some family → known family)
    (told : ∀ answer family, ⟨.version, answer⟩ ∈ exchanges →
      Session.familyIn answer = .ok family → known family)
    (loaded : ∀ reference table, operation.loads? = some reference →
      session.LoadsFrom found reference exchanges table →
        entries (session.key reference) table) :
    (change memory).Vouches entries known := by
  cases writes with
  | forgetTable key =>
      refine ⟨fun other table found => ?_, vouches.family⟩
      rw [Memory.find?_forgetTable] at found
      split at found
      · cases found
      · exact vouches.entry other table found
  | forgetAll =>
      refine ⟨fun key table found => ?_, pinned⟩
      simp at found
  | @family answer family isTold =>
      refine ⟨vouches.entry, ?_⟩
      rintro _ ⟨⟩
      exact told answer family (List.mem_singleton_self _) isTold
  | @table reference exchanges table loads isLoaded =>
      refine ⟨fun other result found => ?_, vouches.family⟩
      rcases memory.find?_rememberTable (session.key reference) other table
        with left | lost
      · rw [left] at found
        split at found
        · next here =>
            cases found
            exact here ▸ loaded reference table loads isLoaded
        · exact vouches.entry other result found
      · rw [lost] at found
        cases found

/-! ## Several operations -/

namespace Traffic

variable {session : Session Cache} {entries : Text → Option Table → Prop}
  {known : ServerFamily → Prop} {traffic final : Traffic Cache}

/-- Whether traffic can become other traffic. -/
def Leads (session : Session Cache) (traffic final : Traffic Cache) : Prop :=
  ∃ moves, final = through session traffic moves

theorem Leads.trans {between : Traffic Cache}
    (first : Leads session traffic between)
    (second : Leads session between final) : Leads session traffic final := by
  obtain ⟨moves, rfl⟩ := first
  obtain ⟨others, rfl⟩ := second
  exact ⟨moves ++ others, (through_append moves others).symm⟩

theorem leads_move (traffic : Traffic Cache) (move : Move) :
    Leads session traffic (traffic.move session move) :=
  ⟨[move], rfl⟩

/-- An operation is still there in what the traffic becomes. -/
theorem Leads.exists_goesOn (leads : Leads session traffic final)
    {place : Nat} {flight : Flight Cache}
    (there : traffic.flights[place]? = some flight) :
    ∃ later, final.flights[place]? = some later ∧ flight.GoesOn later := by
  obtain ⟨moves, rfl⟩ := leads
  exact exists_goesOn_through there moves

/--
No operation leaves the traffic, so that its number of operations only grows.
-/
theorem Leads.length_le (leads : Leads session traffic final) :
    traffic.flights.length ≤ final.flights.length := by
  by_contra shorter
  have last : final.flights.length < traffic.flights.length := by omega
  obtain ⟨later, found, -⟩ :=
    leads.exists_goesOn (List.getElem?_eq_getElem last)
  simp at found

/--
What every move keeps while the traffic is on its way to its end holds there.
-/
theorem keeps_through {Holds : Traffic Cache → Prop}
    (step : ∀ traffic move, Leads session (traffic.move session move) final →
      Holds traffic → Holds (traffic.move session move))
    (begins : Holds traffic) (moves : List Move)
    (leads : Leads session (through session traffic moves) final) :
    Holds (through session traffic moves) := by
  induction moves generalizing traffic with
  | nil => exact begins
  | cons move moves ih =>
      have rest : Leads session (traffic.move session move) final :=
        Leads.trans ⟨moves, rfl⟩ leads
      exact ih (step traffic move rest begins) leads

/-! ## What all operations guarantee -/

/--
Whether the operations that began from a place on guarantee what their
programs do.
-/
def Obeys (session : Session Cache) (entries : Text → Option Table → Prop)
    (known : ServerFamily → Prop) (first : Nat)
    (traffic : Traffic Cache) : Prop :=
  ∀ place flight, first ≤ place → traffic.flights[place]? = some flight →
    flight.Obeys session entries known

/--
Where no operation has begun from a place on, none is to guarantee anything.
-/
theorem obeys_of_length_le {first : Nat}
    (none : traffic.flights.length ≤ first) :
    traffic.Obeys session entries known first := by
  intro place flight begun there
  have bound := (List.getElem?_eq_some_iff.1 there).1
  omega

theorem Obeys.move {first : Nat}
    (obeys : traffic.Obeys session entries known first)
    (vouches : traffic.memory.Vouches entries known) (move : Move) :
    (traffic.move session move).Obeys session entries known first := by
  intro place flight begun there
  rcases flights_move there with
    before | ⟨earlier, answer, -, before, rfl⟩ | ⟨operation, -, -, rfl⟩
  · exact obeys place flight begun before
  · exact (obeys place earlier begun before).advance vouches answer
  · exact Flight.obeys_start operation

end Traffic

end SqlAnywhere
