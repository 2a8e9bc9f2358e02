import SqlAnywhere.Proofs.Guarantee
import SqlAnywhere.Proofs.SessionHistory

/-!
# What an operation guarantees among others

An operation of a session finds in the memory what operations beside it left
there.  It relies on what they vouch for, and guarantees of its own changes
that they forget something, or remember what its exchanges with the server
tell: the family that an answer about the version tells, and the table that
the loader makes of the answers after it.
-/

namespace SqlAnywhere

open Program

variable {Cache : Type}

/--
A family that is told by exchanges: by the answer about the version or,
without a question, by a memory in which it is known.
-/
inductive Tells (known : ServerFamily → Prop) :
    List Exchange → ServerFamily → Prop where
  | remembered {family : ServerFamily} (isKnown : known family) :
      Tells known [] family
  | asked {answer : Answer} {family : ServerFamily}
      (told : Session.familyIn answer = .ok family) :
      Tells known [⟨.version, answer⟩] family

/-- A memory whose entries and family can be trusted. -/
structure Memory.Vouches [TableCache Cache]
    (entries : Text → Option Table → Prop) (known : ServerFamily → Prop)
    (memory : Memory Cache) : Prop where
  entry : ∀ key table, memory.find? key = some table → entries key table
  family : ∀ family, memory.family = some family → known family

namespace Session

/--
Exchanges that a table, or that there is none, is loaded from: they tell a
family, and the loader for that family comes to the table by the others.
-/
def LoadsFrom (session : Session Cache) (known : ServerFamily → Prop)
    (reference : Text) (exchanges : List Exchange) (table : Option Table) :
    Prop :=
  ∃ family version others,
    exchanges = version ++ others ∧ Tells known version family ∧
      (Loader.load family session.defaultOwner reference :
        Program (Memory Cache) CatalogError (Option Table)).Answered others
          (.done table)

variable [TableCache Cache]

/--
The changes that an operation makes to the memory, by its exchanges before
them.
-/
inductive Writes (session : Session Cache) (known : ServerFamily → Prop)
    (operation : Operation) :
    List Exchange → (Memory Cache → Memory Cache) → Prop where
  | forgetTable {exchanges : List Exchange} (key : Text) :
      Writes session known operation exchanges (Memory.forgetTable key)
  | forgetAll {exchanges : List Exchange} :
      Writes session known operation exchanges
        (Memory.forgetAll session.pinned)
  | family {answer : Answer} {family : ServerFamily}
      (told : familyIn answer = .ok family) :
      Writes session known operation [⟨.version, answer⟩]
        (Memory.rememberFamily family)
  | table {reference : Text} {exchanges : List Exchange}
      {table : Option Table}
      (loads : operation.loads? = some reference)
      (loaded : session.LoadsFrom known reference exchanges table) :
      Writes session known operation exchanges
        (Memory.rememberTable (session.key reference) table)

/--
The table that an operation replies is one that it found, or one that it
loaded.
-/
def Replies (session : Session Cache) (entries : Text → Option Table → Prop)
    (known : ServerFamily → Prop) (operation : Operation)
    (exchanges : List Exchange) (reply : Reply) : Prop :=
  ∀ reference table, operation = .load reference → reply = .table table →
    entries (session.key reference) table ∨
      session.LoadsFrom known reference exchanges table

variable {session : Session Cache} {entries : Text → Option Table → Prop}
  {known : ServerFamily → Prop} {operation : Operation}

/-! ## The family -/

omit [TableCache Cache] in
/-- Asking for the family gives the one that the answer tells. -/
theorem obeys_probeFamily (relies : Memory Cache → Prop)
    (changes : List Exchange → (Memory Cache → Memory Cache) → Prop) :
    probeFamily.Obeys relies changes
      (fun exchanges family => ∃ answer,
        exchanges = [⟨.version, answer⟩] ∧ familyIn answer = .ok family)
      [] := by
  refine ((obeys_scalar .version).mapFailure _).bind ?_
  rintro _ value ⟨answer, rfl, first⟩
  refine (obeys_ofExcept _).bind ?_
  rintro _ family ⟨rfl, told⟩
  refine ⟨answer, rfl, ?_⟩
  rw [familyIn, first]
  exact told

/-- The family is known, or is asked for and remembered. -/
theorem obeys_family :
    Session.family.Obeys (Memory.Vouches entries known)
      (Writes session known operation) (Tells known) [] := by
  refine obeys_memory.bind ?_
  rintro _ memory ⟨rfl, vouches⟩
  split
  · next family found => exact .remembered (vouches.family family found)
  · refine (obeys_probeFamily _ _).bind ?_
    rintro _ family ⟨answer, rfl, told⟩
    exact ⟨.family told, .asked told⟩

/-! ## Loading a table -/

theorem obeys_fetchTable {reference : Text}
    (loads : operation.loads? = some reference) :
    (session.fetchTable reference).Obeys (Memory.Vouches entries known)
      (Writes session known operation) (session.LoadsFrom known reference)
      [] := by
  refine obeys_family.bind fun version family tells => ?_
  refine ((Loader.onlyAsks_load family session.defaultOwner reference).obeys
    _ _ version).bind ?_
  rintro _ table ⟨others, rfl, answered⟩
  have loaded : session.LoadsFrom known reference (version ++ others) table :=
    ⟨family, version, others, rfl, tells, answered⟩
  have stored : Writes session known operation (version ++ others)
      (Memory.rememberTable (session.key reference) table) :=
    .table loads loaded
  split
  · exact ⟨stored, loaded⟩
  · exact ⟨stored, loaded⟩

theorem obeys_table {reference : Text}
    (loads : operation.loads? = some reference) :
    (session.table reference).Obeys (Memory.Vouches entries known)
      (Writes session known operation)
      (fun exchanges table => entries (session.key reference) table ∨
        session.LoadsFrom known reference exchanges table)
      [] := by
  refine obeys_memory.bind ?_
  rintro _ memory ⟨rfl, vouches⟩
  split
  · next table found => exact .inl (vouches.entry _ table found)
  · exact (obeys_fetchTable loads).mono fun _ _ loaded => .inr loaded

/-- Forgetting a table asks nothing. -/
theorem obeys_forgetTable (reference : Text) :
    (session.forgetTable reference :
      Program (Memory Cache) CatalogError Unit).Obeys
        (Memory.Vouches entries known) (Writes session known operation)
        (fun exchanges _ => exchanges = []) [] := by
  refine ⟨.forgetTable _, ?_⟩
  change (if _ then _ else _ :
    Program (Memory Cache) CatalogError Unit).Obeys _ _ _ _
  split
  · exact ⟨.forgetTable _, rfl⟩
  · rfl

theorem obeys_refreshTable {reference : Text}
    (loads : operation.loads? = some reference) :
    (session.refreshTable reference).Obeys (Memory.Vouches entries known)
      (Writes session known operation)
      (fun exchanges table => entries (session.key reference) table ∨
        session.LoadsFrom known reference exchanges table)
      [] := by
  refine (obeys_forgetTable reference).bind ?_
  rintro _ - rfl
  exact obeys_table loads

/-! ## Asking for more -/

theorem obeys_tableNames (owner : Text) :
    (session.tableNames owner).Obeys (Memory.Vouches entries known)
      (Writes session known operation) (fun _ _ => True) [] :=
  obeys_family.bind fun exchanges family _ =>
    (Loader.onlyAsks_tableNames family session.defaultOwner owner).obeys_always
      _ _ exchanges

omit [TableCache Cache] in
/-- What the keys of a table are restarted with is only asked for. -/
theorem onlyAsks_nextKey (table : Table) :
    (nextKey table :
      Program (Memory Cache) CatalogError Int64).OnlyAsks := by
  rw [nextKey]
  split
  · exact ((onlyAsks_scalar _).mapFailure _).bind fun _ => .done _
  · exact .done 1

theorem obeys_restartKeys {reference : Text}
    (loads : operation.loads? = some reference) (next : Option Int64) :
    (session.restartKeys reference next).Obeys
      (Memory.Vouches entries known) (Writes session known operation)
      (fun _ _ => True) [] := by
  refine (obeys_table loads).bind fun exchanges table _ =>
    OnlyAsks.obeys_always ?_ _ _ exchanges
  cases table with
  | none => exact (onlyAsks_log _ _).bind fun _ => .done none
  | some table =>
      cases generated : table.generator with
      | none =>
          simp only [generated]
          exact .done none
      | some generator =>
          simp only [generated]
          cases next with
          | none => exact (onlyAsks_nextKey table).bind fun _ => .done _
          | some next => exact .done _

/-! ## Every operation -/

/--
An operation relies on what the memory vouches for, changes the memory only
as its exchanges tell, and replies a table that it found there or loaded.
-/
theorem obeys_program (session : Session Cache)
    (entries : Text → Option Table → Prop) (known : ServerFamily → Prop)
    (operation : Operation) :
    (operation.program session).Obeys (Memory.Vouches entries known)
      (Writes session known operation)
      (session.Replies entries known operation) [] := by
  cases operation with
  | load reference =>
      refine (obeys_table rfl).bind fun exchanges table given => ?_
      rintro _ _ ⟨⟩ ⟨⟩
      exact given
  | refresh reference =>
      exact (obeys_refreshTable rfl).bind fun exchanges table _ => nofun
  | forget reference =>
      exact (obeys_forgetTable reference).bind fun exchanges _ _ => nofun
  | forgetAll => exact ⟨.forgetAll, nofun⟩
  | family =>
      exact obeys_family.bind fun exchanges family tells => nofun
  | tableNames owner =>
      exact (obeys_tableNames owner).bind fun exchanges names _ => nofun
  | restartKeys reference next =>
      exact (obeys_restartKeys rfl next).bind
        fun exchanges statement _ => nofun

end Session

end SqlAnywhere
