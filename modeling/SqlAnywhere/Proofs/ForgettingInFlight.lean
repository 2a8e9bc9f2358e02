import SqlAnywhere.Proofs.Forgetting
import SqlAnywhere.Proofs.StoredCatalog
import SqlAnywhere.Proofs.TrafficGuarantee

/-!
# Forgetting while loads are on their way

A load that begins when a table has been forgotten can still find it in the
memory: another load that was on its way meanwhile may have stored it, made of
answers from before.  Nothing else puts it there.  What such a load gives comes
from a load that began afterwards too, or from one that was on its way.

The family of the server is not forgotten with a table, so that a load that
begins afterwards may use the one that was told before.
-/

namespace SqlAnywhere

open TableName

variable {Cache : Type}

/-! ## Coming to forget -/

/--
Whether a program, before it ends, makes a change that leaves each memory as
it should be.
-/
def Program.ComesTo {Memory Failure Result : Type} (should : Memory → Prop) :
    Program Memory Failure Result → Prop
  | .done _ | .fail _ => False
  | .ask _ next => ∀ answer, (next answer).ComesTo should
  | .note _ next => next.ComesTo should
  | .consult next => ∀ memory, (next memory).ComesTo should
  | .update change next =>
      (∀ memory, should (change memory)) ∨ next.ComesTo should

/-- What a program comes to it comes to with whatever follows it. -/
theorem Program.ComesTo.bind {Memory Failure First Second : Type}
    {should : Memory → Prop} {first : Program Memory Failure First}
    (comes : first.ComesTo should)
    (next : First → Program Memory Failure Second) :
    (first >>= next).ComesTo should := by
  change (first.andThen next).ComesTo should
  induction first with
  | done result => exact comes.elim
  | fail failure => exact comes.elim
  | ask call rest ih => exact fun answer => ih answer (comes answer)
  | note entry rest ih => exact ih comes
  | consult rest ih => exact fun memory => ih memory (comes memory)
  | update change rest ih => exact comes.imp_right ih

namespace Session

variable [TableCache Cache]

/--
A memory in which nothing is remembered under a key and, if everything is
forgotten, no family but the pinned one.
-/
def Forgot (session : Session Cache) (key : Text) (operation : Operation)
    (memory : Memory Cache) : Prop :=
  memory.find? key = none ∧
    (operation = .forgetAll → memory.family = session.pinned)

theorem comesTo_forgetTable {session : Session Cache} {reference key : Text}
    {operation : Operation} (listed : key ∈ session.keysOf reference)
    (ordinary : operation ≠ .forgetAll) :
    (session.forgetTable reference :
      Program (Memory Cache) CatalogError Unit).ComesTo
        (session.Forgot key operation) := by
  have forgot (memory : Memory Cache) :
      session.Forgot key operation (memory.forgetTable key) :=
    ⟨(memory.find?_forgetTable key key).trans (if_pos rfl),
      fun all => absurd all ordinary⟩
  rcases (mem_keysOf_iff session reference key).1 listed with
    rfl | ⟨default, rfl⟩
  · exact .inl forgot
  · refine .inr ?_
    change (if _ then _ else _ :
      Program (Memory Cache) CatalogError Unit).ComesTo _
    rw [if_pos default]
    exact .inl forgot

/-- An operation that forgets a key comes to leave nothing under it. -/
theorem comesTo_program {session : Session Cache} {key : Text}
    {operation : Operation} (forgets : operation.Forgets session key) :
    (operation.program session).ComesTo (session.Forgot key operation) := by
  cases operation with
  | refresh reference =>
      have ordinary : Operation.refresh reference ≠ .forgetAll := nofun
      exact ((comesTo_forgetTable forgets ordinary).bind _).bind _
  | forget reference =>
      have ordinary : Operation.forget reference ≠ .forgetAll := nofun
      exact (comesTo_forgetTable forgets ordinary).bind _
  | forgetAll =>
      exact .inl fun memory =>
        ⟨memory.find?_forgetAll session.pinned key, fun _ => rfl⟩
  | load | family | tableNames | restartKeys => exact forgets.elim

end Session

namespace Traffic

variable {session : Session Cache} {before ended traffic final : Traffic Cache}

/-! ## Where something comes from -/

/--
A family that a session is pinned to, or that the operation at one of some
places was told.
-/
inductive FamilyFrom (session : Session Cache) (places : Nat → Prop)
    (traffic : Traffic Cache) : ServerFamily → Prop where
  | pinned {family : ServerFamily} (isPinned : session.pinned = some family) :
      FamilyFrom session places traffic family
  | told {place : Nat} {flight : Flight Cache} {answer : Answer}
      {family : ServerFamily} (isPlace : places place)
      (there : traffic.flights[place]? = some flight)
      (asked : ⟨.version, answer⟩ ∈ flight.exchanges)
      (isTold : Session.familyIn answer = .ok family) :
      FamilyFrom session places traffic family

/--
Whether the operation at a place loaded a table that is remembered under a
key.
-/
def TableFrom (session : Session Cache) (known : ServerFamily → Prop)
    (traffic : Traffic Cache) (key : Text) (table : Option Table)
    (place : Nat) : Prop :=
  ∃ flight reference exchanges,
    traffic.flights[place]? = some flight ∧
      flight.operation.loads? = some reference ∧
      session.key reference = key ∧
      exchanges <+: flight.exchanges ∧
      session.LoadsFrom known reference exchanges table

theorem FamilyFrom.mono {places places' : Nat → Prop} {family : ServerFamily}
    (known : traffic.FamilyFrom session places family)
    (follows : ∀ place, places place → places' place) :
    traffic.FamilyFrom session places' family := by
  cases known with
  | pinned isPinned => exact .pinned isPinned
  | told isPlace there asked isTold =>
      exact .told (follows _ isPlace) there asked isTold

variable [TableCache Cache]

/--
What an operation was told while it was on its way it was told in the end.
-/
theorem Leads.familyFrom (leads : Leads session traffic final)
    {places : Nat → Prop} {place : Nat} {flight : Flight Cache}
    {answer : Answer} {family : ServerFamily} (isPlace : places place)
    (there : traffic.flights[place]? = some flight)
    (asked : ⟨.version, answer⟩ ∈ flight.exchanges)
    (isTold : Session.familyIn answer = .ok family) :
    final.FamilyFrom session places family := by
  obtain ⟨later, found, goesOn⟩ := leads.exists_goesOn there
  exact .told isPlace found (goesOn.exchanges.subset asked) isTold

/-- What an operation loaded while it was on its way it loaded in the end. -/
theorem Leads.tableFrom (leads : Leads session traffic final)
    {known : ServerFamily → Prop} {place : Nat} {flight : Flight Cache}
    {reference : Text} {table : Option Table}
    (there : traffic.flights[place]? = some flight)
    (loads : flight.operation.loads? = some reference)
    (loaded : session.LoadsFrom known reference flight.exchanges table) :
    final.TableFrom session known (session.key reference) table place := by
  obtain ⟨later, found, goesOn⟩ := leads.exists_goesOn there
  exact ⟨later, reference, flight.exchanges, found,
    goesOn.operation ▸ loads, rfl, goesOn.exchanges, loaded⟩

/-! ## What holds at every moment -/

/-- Any family that a session is pinned to or that any operation was told. -/
abbrev AnyFamily (session : Session Cache) (traffic : Traffic Cache) :
    ServerFamily → Prop :=
  traffic.FamilyFrom session fun _ => True

/--
What holds of traffic on its way: the memory knows a family that some
operation is told, and all operations guarantee what their programs do.
-/
structure Tracked (session : Session Cache)
    (traffic final : Traffic Cache) : Prop where
  vouches :
    traffic.memory.Vouches (fun _ _ => True) (final.AnyFamily session)
  obeys :
    traffic.Obeys session (fun _ _ => True) (final.AnyFamily session) 0

theorem tracked_start : Tracked session ⟨session.start, []⟩ final :=
  ⟨⟨fun _ _ _ => trivial, fun _ known => .pinned known⟩, nofun⟩

/--
A memory that vouches for something still does after a move, if it does after
each change that an operation can come to.
-/
theorem vouches_move {entries : Text → Option Table → Prop}
    {known : ServerFamily → Prop}
    (vouches : traffic.memory.Vouches entries known)
    (changes : ∀ (place : Nat) (flight : Flight Cache)
      (change : Memory Cache → Memory Cache)
      (next : Program (Memory Cache) CatalogError Reply),
      traffic.flights[place]? = some flight →
      flight.rest = .update change next →
        (change traffic.memory).Vouches entries known)
    (move : Move) :
    (traffic.move session move).memory.Vouches entries known := by
  rcases memory_move traffic move with
    same | ⟨place, answer, flight, change, next, -, there, rest, changed⟩
  · rwa [same]
  · rw [changed]
    exact changes place flight change next there rest

/--
What a move keeps: an operation changes the memory only as it guarantees.
-/
theorem Tracked.move (tracked : traffic.Tracked session final) (move : Move)
    (leads : Leads session (traffic.move session move) final) :
    (traffic.move session move).Tracked session final := by
  have leads' : Leads session traffic final :=
    (leads_move traffic move).trans leads
  refine ⟨vouches_move tracked.vouches ?_ move,
    tracked.obeys.move tracked.vouches move⟩
  intro place flight change next there rest
  have writes := (tracked.obeys place flight place.zero_le there).writes rest
  exact tracked.vouches.write writes (fun _ => .pinned)
    (fun _ _ => leads'.familyFrom trivial there)
    (fun _ _ _ _ => trivial)

/-- Traffic that a session comes to is tracked, whatever it becomes. -/
theorem tracked_of_leads (begun : Leads session ⟨session.start, []⟩ traffic)
    (leads : Leads session traffic final) : traffic.Tracked session final := by
  obtain ⟨moves, rfl⟩ := begun
  have step (traffic : Traffic Cache) (move : Move)
      (leads : Leads session (traffic.move session move) final)
      (kept : traffic.Tracked session final) :
      (traffic.move session move).Tracked session final :=
    kept.move move leads
  exact keeps_through step tracked_start moves leads

/-! ## What holds once a key is forgotten -/

/--
Whether the operation at a place may yet change the memory, also because it
has not begun.
-/
def Unsettled (traffic : Traffic Cache) (place : Nat) : Prop :=
  ∀ flight, traffic.flights[place]? = some flight → ¬ flight.rest.Settled

/-- An operation that comes to a change was not settled before. -/
theorem Leads.unsettled (leads : Leads session before traffic)
    {place : Nat} {flight : Flight Cache}
    {change : Memory Cache → Memory Cache}
    {next : Program (Memory Cache) CatalogError Reply}
    (there : traffic.flights[place]? = some flight)
    (rest : flight.rest = .update change next) :
    before.Unsettled place := by
  intro earlier found settled
  obtain ⟨later, found', goesOn⟩ := leads.exists_goesOn found
  obtain rfl : later = flight := Option.some.inj (found'.symm.trans there)
  have still := goesOn.settled settled
  rw [rest] at still
  cases still

end Traffic

variable [TableCache Cache]

/--
The traffic of a session when an operation has not begun, when it is over,
and in the end.
-/
structure Interval (session : Session Cache) where
  before : Traffic Cache
  ended : Traffic Cache
  final : Traffic Cache
  earlier : Traffic.Leads session ⟨session.start, []⟩ before
  during : before.Leads session ended
  later : ended.Leads session final

namespace Interval

open Traffic

variable {session : Session Cache} (interval : Interval session)
  (operation : Operation) (key : Text)

/--
A family that may be used once an operation has forgotten something: if it
forgets everything, the family is not one that was told to an operation that
was over before.
-/
abbrev FreshFamily : ServerFamily → Prop :=
  interval.final.FamilyFrom session fun place =>
    operation = .forgetAll → interval.before.Unsettled place

/--
A table that may be remembered under a key once it is forgotten: it was
loaded by an operation that began afterwards, or by one that was on its way
meanwhile.
-/
def FreshTable (table : Option Table) : Prop :=
  (∃ place, interval.ended.flights.length ≤ place ∧
    interval.final.TableFrom session (interval.FreshFamily operation) key
      table place) ∨
  ∃ place, place < interval.ended.flights.length ∧
    interval.before.Unsettled place ∧
    interval.final.TableFrom session (interval.final.AnyFamily session) key
      table place

/-- A memory once a key is forgotten. -/
abbrev IsFresh (memory : Memory Cache) : Prop :=
  memory.Vouches
    (fun other table => other = key → interval.FreshTable operation key table)
    (interval.FreshFamily operation)

abbrev ObeysAfterwards (traffic : Traffic Cache) : Prop :=
  traffic.Obeys session
    (fun other table => other = key → interval.FreshTable operation key table)
    (interval.FreshFamily operation) interval.ended.flights.length

variable {interval} {operation} {key} {traffic : Traffic Cache}

/-- A memory in which a key is forgotten. -/
theorem isFresh_of_forgot {memory : Memory Cache}
    (vouches :
      memory.Vouches (fun _ _ => True) (interval.final.AnyFamily session))
    (forgot : session.Forgot key operation memory) :
    interval.IsFresh operation key memory := by
  refine ⟨?_, ?_⟩
  · rintro _ table found rfl
    rw [forgot.1] at found
    cases found
  · intro family known
    by_cases all : operation = .forgetAll
    · exact .pinned ((forgot.2 all).symm.trans known)
    · exact (vouches.family family known).mono fun _ _ all' => absurd all' all

/--
Only operations that were not over when the key was forgotten change the
memory.
-/
theorem isFresh_move (since : interval.before.Leads session traffic)
    (tracked : traffic.Tracked session interval.final)
    (obeys : interval.ObeysAfterwards operation key traffic)
    (fresh : interval.IsFresh operation key traffic.memory) (move : Move)
    (leads : Leads session traffic interval.final) :
    interval.IsFresh operation key (traffic.move session move).memory := by
  refine vouches_move fresh ?_ move
  intro place flight change next there rest
  have unsettled : interval.before.Unsettled place := since.unsettled there rest
  have told (answer : Answer) (family : ServerFamily)
      (asked : ⟨.version, answer⟩ ∈ flight.exchanges)
      (isTold : Session.familyIn answer = .ok family) :
      interval.FreshFamily operation family :=
    leads.familyFrom (fun _ => unsettled) there asked isTold
  -- An operation that began afterwards found the memory fresh, and so is the
  -- family that it used.
  by_cases afterwards : interval.ended.flights.length ≤ place
  · have writes := (obeys place flight afterwards there).writes rest
    refine fresh.write writes (fun _ => .pinned) told ?_
    rintro reference table loads loaded rfl
    exact .inl ⟨place, afterwards, leads.tableFrom there loads loaded⟩
  · have writes :=
      (tracked.obeys place flight place.zero_le there).writes rest
    refine fresh.write writes (fun _ => .pinned) told ?_
    rintro reference table loads loaded rfl
    exact .inr ⟨place, by omega, unsettled,
      leads.tableFrom there loads loaded⟩

/-! ## What holds in an interval -/

omit [TableCache Cache] in
/--
An operation that comes to a change makes it with its next step, or still
comes to it.
-/
theorem comesTo_advance {should : Memory Cache → Prop} {flight : Flight Cache}
    (comes : flight.rest.ComesTo should) (memory : Memory Cache)
    (answer : Answer) :
    should (flight.advance memory answer).1 ∨
      (flight.advance memory answer).2.rest.ComesTo should := by
  obtain ⟨operation, exchanges, rest⟩ := flight
  cases rest with
  | done | fail => exact comes.elim
  | ask call next => exact .inr (comes answer)
  | note entry next => exact .inr comes
  | consult next => exact .inr (comes memory)
  | update change next => exact comes.imp_left fun should => should memory

/--
What holds until an operation is over: it comes to forget the key, or has
done so.
-/
structure Forgetting (interval : Interval session) (operation : Operation)
    (key : Text) (place : Nat) (traffic : Traffic Cache) : Prop where
  since : interval.before.Leads session traffic
  tracked : traffic.Tracked session interval.final
  forgets : interval.IsFresh operation key traffic.memory ∨
    ∀ flight, traffic.flights[place]? = some flight →
      flight.rest.ComesTo (session.Forgot key operation)

/-- What holds from when the operation is over: the key stays forgotten. -/
structure Afterwards (interval : Interval session) (operation : Operation)
    (key : Text) (traffic : Traffic Cache) : Prop where
  since : interval.ended.Leads session traffic
  tracked : traffic.Tracked session interval.final
  obeys : interval.ObeysAfterwards operation key traffic
  fresh : interval.IsFresh operation key traffic.memory

/--
While an operation comes to forget a key, a move makes it do so, or it still
comes to it.
-/
theorem isFresh_or_comesTo_move {place : Nat} {forgetter : Flight Cache}
    (comes : ∀ flight, traffic.flights[place]? = some flight →
      flight.rest.ComesTo (session.Forgot key forgetter.operation))
    (there : interval.ended.flights[place]? = some forgetter)
    (forgets : forgetter.operation.Forgets session key) (move : Move)
    (leads : Leads session (traffic.move session move) interval.ended)
    (tracked :
      (traffic.move session move).Tracked session interval.final) :
    interval.IsFresh forgetter.operation key
        (traffic.move session move).memory ∨
      ∀ flight, (traffic.move session move).flights[place]? = some flight →
        flight.rest.ComesTo (session.Forgot key forgetter.operation) := by
  refine or_iff_not_imp_left.2 fun stale flight found => ?_
  rcases flights_move found with
    before | ⟨earlier, answer, rfl, before, rfl⟩ | ⟨begun, rfl, rfl, rfl⟩
  · exact comes flight before
  · have next := comesTo_advance (comes earlier before) traffic.memory answer
    refine next.resolve_left fun forgot => stale ?_
    rw [← memory_advance before] at forgot
    exact isFresh_of_forgot tracked.vouches forgot
  · obtain ⟨later, found', goesOn⟩ := leads.exists_goesOn found
    obtain rfl : later = forgetter := Option.some.inj (found'.symm.trans there)
    rw [goesOn.operation] at forgets ⊢
    exact Session.comesTo_program forgets

theorem Forgetting.move {place : Nat} {forgetter : Flight Cache}
    (forgetting : interval.Forgetting forgetter.operation key place traffic)
    (there : interval.ended.flights[place]? = some forgetter)
    (forgets : forgetter.operation.Forgets session key) (move : Move)
    (leads : Leads session (traffic.move session move) interval.ended) :
    interval.Forgetting forgetter.operation key place
      (traffic.move session move) := by
  have leads' : Leads session traffic interval.ended :=
    (leads_move traffic move).trans leads
  have tracked := forgetting.tracked.move move (leads.trans interval.later)
  refine ⟨forgetting.since.trans (leads_move traffic move), tracked, ?_⟩
  rcases forgetting.forgets with fresh | comes
  · exact .inl (isFresh_move forgetting.since forgetting.tracked
      (obeys_of_length_le leads'.length_le) fresh move
      (leads'.trans interval.later))
  · exact isFresh_or_comesTo_move comes there forgets move leads tracked

/-- The key is forgotten when the operation is over. -/
theorem isFresh_ended {place : Nat} {forgetter : Flight Cache}
    (begins : interval.before.flights.length ≤ place)
    (there : interval.ended.flights[place]? = some forgetter)
    (replied : forgetter.reply?.isSome)
    (forgets : forgetter.operation.Forgets session key) :
    interval.IsFresh forgetter.operation key interval.ended.memory := by
  obtain ⟨moves, reached⟩ := interval.during
  have step (traffic : Traffic Cache) (move : Move)
      (leads : Leads session (traffic.move session move) interval.ended)
      (kept : interval.Forgetting forgetter.operation key place traffic) :
      interval.Forgetting forgetter.operation key place
        (traffic.move session move) :=
    kept.move there forgets move leads
  have begun :
      interval.Forgetting forgetter.operation key place interval.before := by
    have tracked := tracked_of_leads interval.earlier
      (interval.during.trans interval.later)
    refine ⟨⟨[], rfl⟩, tracked, .inr fun flight found => ?_⟩
    have place_lt := (List.getElem?_eq_some_iff.1 found).1
    omega
  have kept := keeps_through step begun moves ⟨[], reached⟩
  rw [← reached] at kept
  refine kept.forgets.resolve_right fun comes => ?_
  have unfinished := comes forgetter there
  rw [Flight.reply?] at replied
  split at replied
  · next rest =>
      rw [rest] at unfinished
      exact unfinished
  · cases replied

theorem Afterwards.move (afterwards : interval.Afterwards operation key traffic)
    (move : Move)
    (leads : Leads session (traffic.move session move) interval.final) :
    interval.Afterwards operation key (traffic.move session move) where
  since := afterwards.since.trans (leads_move traffic move)
  tracked := afterwards.tracked.move move leads
  obeys := afterwards.obeys.move afterwards.fresh move
  fresh :=
    isFresh_move (interval.during.trans afterwards.since) afterwards.tracked
      afterwards.obeys afterwards.fresh move
      ((leads_move traffic move).trans leads)

/-- The key stays forgotten afterwards. -/
theorem afterwards_final
    (fresh : interval.IsFresh operation key interval.ended.memory) :
    interval.Afterwards operation key interval.final := by
  obtain ⟨moves, reached⟩ := interval.later
  have step (traffic : Traffic Cache) (move : Move)
      (leads : Leads session (traffic.move session move) interval.final)
      (kept : interval.Afterwards operation key traffic) :
      interval.Afterwards operation key (traffic.move session move) :=
    kept.move move leads
  have begun : interval.Afterwards operation key interval.ended := by
    have tracked := tracked_of_leads (interval.earlier.trans interval.during)
      interval.later
    exact ⟨⟨[], rfl⟩, tracked, obeys_of_length_le le_rfl, fresh⟩
  have kept := keeps_through step begun moves ⟨[], reached⟩
  rwa [← reached] at kept

/-- What a load gives that begins afterwards is fresh. -/
theorem Afterwards.freshTable {place : Nat} {loader : Flight Cache}
    {reference : Text} {table : Option Table}
    (afterwards :
      interval.Afterwards operation (session.key reference) interval.final)
    (begins : interval.ended.flights.length ≤ place)
    (there : interval.final.flights[place]? = some loader)
    (loads : loader.operation = .load reference)
    (replied : loader.reply? = some (.table table)) :
    interval.FreshTable operation (session.key reference) table := by
  have obeys := afterwards.obeys place loader begins there
  rcases obeys.replies replied reference table loads rfl with found | loaded
  · exact found rfl
  · refine .inl ⟨place, begins, ?_⟩
    have loads' : loader.operation.loads? = some reference := by
      rw [loads, Operation.loads?]
    exact Leads.tableFrom ⟨[], rfl⟩ there loads' loaded

end Interval

/-! ## Loads after the forgetting -/

deriving instance DecidableEq for Operation

namespace Session

open Traffic

/--
A load that begins after a table is forgotten gives what an operation loaded
that began afterwards, too, or one that was on its way meanwhile and not over
when the forgetting began.  In the first case all that the table is made of
was answered afterwards; if everything was forgotten, its family is not one
that an operation was told which was over before.
-/
theorem loaded_since_forgotten
    (session : Session Cache) (earlier during later : List Move)
    (forgetting loading : Nat) (forgetter loader : Flight Cache)
    (reference : Text) (table : Option Table) :
    let before := Traffic.after session earlier
    let ended := before.through session during
    let final := ended.through session later
    before.flights.length ≤ forgetting →
    ended.flights[forgetting]? = some forgetter →
    forgetter.reply?.isSome →
    forgetter.operation = .forgetAll ∨
      (∃ other, forgetter.operation = .forget other ∧
        sameReference other reference session.defaultOwner) →
    ended.flights.length ≤ loading →
    final.flights[loading]? = some loader →
    loader.operation = .load reference →
    loader.reply? = some (.table table) →
    let freshFamily := final.FamilyFrom session fun place =>
      forgetter.operation = .forgetAll → before.Unsettled place
    (∃ place, ended.flights.length ≤ place ∧
      final.TableFrom session freshFamily (session.key reference) table
        place) ∨
    ∃ place, place < ended.flights.length ∧ before.Unsettled place ∧
      final.TableFrom session (final.AnyFamily session)
        (session.key reference) table place := by
  intro before ended final begins there replied forgets begins' there' loads
    replied' freshFamily
  let interval : Interval session :=
    ⟨before, ended, final, ⟨earlier, rfl⟩, ⟨during, rfl⟩, ⟨later, rfl⟩⟩
  have forgets' :
      forgetter.operation.Forgets session (session.key reference) := by
    rcases forgets with all | ⟨other, one, same⟩
    · rw [all]
      trivial
    · rw [one]
      exact session.key_mem_keysOf same
  have fresh : interval.IsFresh forgetter.operation (session.key reference)
      ended.memory :=
    Interval.isFresh_ended begins there replied forgets'
  exact (Interval.afterwards_final fresh).freshTable begins' there' loads
    replied'

/--
A table that is loaded after everything was forgotten: the server, which has
become another one since it was loaded before, is asked for everything again.
-/
theorem users_loaded_since_forgotten :
    let users : StoredTable :=
      { owner := "dba".toList
        name := "Users".toList
        primaryKey := []
        columns := [{ name := "id".toList, typeName := "integer".toList }] }
    let empty : Answer := .ok []
    let version (number : Text) : Answer :=
      .ok [[("version".toList, .text number)]]
    let loading (place : Nat) (number : Text) (family : ServerFamily) :=
      .start (.load "dba.Users".toList) ::
        Move.steps place [empty, empty, version number, empty, empty, empty,
          .ok (users.columnRows family), empty, empty, empty]
    let session : Session TableEntries := ⟨"dba".toList, none, 1024⟩
    let earlier := loading 0 "9.0.2.3951".toList .v9
    let during := .start .forgetAll :: Move.steps 1 [empty, empty]
    let later := loading 2 "17.0.10.5963".toList .v12
    let before := Traffic.after session earlier
    let ended := before.through session during
    let final := ended.through session later
    ∃ loader table,
      final.flights[2]? = some loader ∧
        loader.reply? = some (.table (some table)) ∧
        loader.exchanges.map (·.call.query) =
          [.version, .primaryKeys .v12, .columns .v12, .foreignKeys .v12] ∧
        ((∃ place, ended.flights.length ≤ place ∧
          final.TableFrom session
            (final.FamilyFrom session fun other =>
              Operation.forgetAll = .forgetAll → before.Unsettled other)
            "DBA.USERS".toList (some table) place) ∨
        ∃ place, place < ended.flights.length ∧ before.Unsettled place ∧
          final.TableFrom session (final.AnyFamily session)
            "DBA.USERS".toList (some table) place) := by
  intro users empty version loading session earlier during later before ended
    final
  obtain ⟨forgetter, there, forgets⟩ :=
    (Option.any_eq_true
      (fun flight => flight.operation = .forgetAll ∧ flight.reply?.isSome)
      ended.flights[1]?).1 (by decide +kernel)
  obtain ⟨loader, there', loads⟩ :=
    (Option.any_eq_true
      (fun flight => flight.operation = .load "dba.Users".toList ∧
        flight.table?.isSome ∧
        flight.exchanges.map (·.call.query) =
          [.version, .primaryKeys .v12, .columns .v12, .foreignKeys .v12])
      final.flights[2]?).1 (by decide +kernel)
  obtain ⟨everything, done⟩ := of_decide_eq_true forgets
  obtain ⟨load, given, asked⟩ := of_decide_eq_true loads
  obtain ⟨table, given⟩ := Option.isSome_iff_exists.1 given
  have replied := Flight.reply?_of_table? given
  have counted : before.flights.length = 1 := by decide +kernel
  have counted' : ended.flights.length = 2 := by decide +kernel
  have key : session.key "dba.Users".toList = "DBA.USERS".toList := by
    decide +kernel
  have loaded :=
    loaded_since_forgotten session earlier during later 1 2 forgetter loader
      "dba.Users".toList (some table) counted.le there done (.inl everything)
      counted'.le there' load replied
  rw [key, everything] at loaded
  exact ⟨loader, table, there', replied, asked, loaded⟩

/--
A load that began before a table is forgotten stores it afterwards, and a
load that begins then gives its columns as they were answered before.  A load
that begins afterwards also asks in the layout of a version that was told
before.
-/
theorem users_stored_after_forgetting :
    let users : StoredTable :=
      { owner := "dba".toList
        name := "Users".toList
        primaryKey := []
        columns := [{ name := "id".toList, typeName := "integer".toList }] }
    let load := Operation.load "dba.Users".toList
    let forget := Operation.forget "dba.Users".toList
    let empty : Answer := .ok []
    let columns (family : ServerFamily) : Answer :=
      .ok (users.columnRows family)
    let pinned : Session TableEntries := ⟨"dba".toList, some .v12, 1024⟩
    let ended := Traffic.after pinned
      (.start load :: Move.steps 0 [empty, empty, empty, columns .v12] ++
        .start forget :: Move.steps 1 [empty, empty])
    let final := ended.through pinned
      (Move.steps 0 [empty, empty, empty] ++
        .start load :: Move.steps 2 [empty])
    let probing : Session TableEntries := ⟨"dba".toList, none, 1024⟩
    let version : Answer :=
      .ok [[("version".toList, .text "9.0.2.3951".toList)]]
    let ended' := Traffic.after probing
      (.start load ::
          Move.steps 0 [empty, empty, version, empty, empty, empty,
            columns .v9, empty, empty, empty] ++
        .start forget :: Move.steps 1 [empty, empty])
    let final' := ended'.through probing
      (.start load ::
        Move.steps 2 [empty, empty, empty, columns .v9, empty, empty, empty])
    (ended.flights.map (·.reply?.isSome) = [false, true] ∧
      ended.flights.map (·.exchanges.map (·.call.query)) =
        [[.primaryKeys .v12, .columns .v12], []] ∧
      (final.flights.drop 2).map (·.exchanges.map (·.call.query)) = [[]] ∧
      (final.flights.drop 2).map (·.table?.map Table.columnNames) =
        [some ["id".toList]]) ∧
    ended'.flights.map (·.reply?.isSome) = [true, true] ∧
      (final'.flights.drop 2).map (·.exchanges.map (·.call.query)) =
        [[.primaryKeys .v9, .columns .v9, .foreignKeys .v9]] ∧
      (final'.flights.drop 2).map (·.table?.map Table.columnNames) =
        [some ["id".toList]] := by
  decide +kernel

end Session

end SqlAnywhere
