import SqlAnywhere.Proofs.QuotedReference

/-!
# Quoting settles a name

Quoting adds brackets alone, and only to parts that have none yet.  A name that
was quoted is therefore left as it is when it is quoted again.  It is read as
the name that it was made from, so that a session asks about the same table for
both, and remembers one entry for them.
-/

namespace SqlAnywhere

namespace Identifier

/-! ## No more than brackets -/

section Brackets

variable {name : Text}

theorem mem_unquote_iff {character : Char} (other : ¬ isBracket character) :
    character ∈ unquote name ↔ character ∈ name := by
  simp [unquote, other]

theorem unquote_intercalate_dot (parts : List Text) :
    unquote (['.'].intercalate parts) =
      ['.'].intercalate (parts.map unquote) := by
  induction parts with
  | nil => rfl
  | cons first others ih =>
      cases others with
      | nil => simp
      | cons second others =>
          simp only [List.map_cons, List.intercalate_cons_cons] at ih ⊢
          rw [unquote_append, unquote_append, ih]
          rfl

@[simp]
theorem unquote_quoteTable (name : Text) :
    unquote (quoteTable name) = unquote name := by
  by_cases literal : '(' ∈ name
  · rw [quoteTable, if_pos literal]
  · have parts : unquote ∘ quote = unquote := funext unquote_quote
    rw [quoteTable, if_neg literal, unquote_intercalate_dot, List.map_map,
      parts, ← unquote_intercalate_dot, List.intercalate_splitOn]

@[simp]
theorem unquote_quoteColumnPart (name : Text) :
    unquote (quoteColumnPart name) = unquote name := by
  rw [quoteColumnPart]
  split
  · rfl
  · exact unquote_quote name

theorem mem_quoteTable_iff {character : Char} (other : ¬ isBracket character) :
    character ∈ quoteTable name ↔ character ∈ name := by
  rw [← mem_unquote_iff other, unquote_quoteTable, mem_unquote_iff other]

theorem mem_quoteColumnPart_iff {character : Char}
    (other : ¬ isBracket character) :
    character ∈ quoteColumnPart name ↔ character ∈ name := by
  rw [← mem_unquote_iff other, unquote_quoteColumnPart, mem_unquote_iff other]

/-- Quoting makes no expression of a name. -/
theorem literal_mem_quoteTable_iff : '(' ∈ quoteTable name ↔ '(' ∈ name :=
  mem_quoteTable_iff (by decide)

theorem literal_mem_quoteColumnPart_iff :
    '(' ∈ quoteColumnPart name ↔ '(' ∈ name :=
  mem_quoteColumnPart_iff (by decide)

theorem dot_mem_quoteColumnPart_iff :
    '.' ∈ quoteColumnPart name ↔ '.' ∈ name :=
  mem_quoteColumnPart_iff (by decide)

end Brackets

/-! ## Quoting again -/

theorem opening_mem_quote (name : Text) : '[' ∈ quote name := by
  rw [quote]
  split
  · assumption
  · exact List.mem_cons_self

theorem quote_quote (name : Text) : quote (quote name) = quote name :=
  (quote_eq_self_iff _).2 (opening_mem_quote name)

theorem quoteColumnPart_quoteColumnPart (name : Text) :
    quoteColumnPart (quoteColumnPart name) = quoteColumnPart name := by
  by_cases star : name = ['*']
  · subst star
    rfl
  · have quoted : quoteColumnPart name = quote name := if_neg star
    have other : quote name ≠ ['*'] := by
      intro same
      exact absurd (same ▸ opening_mem_quote name) (by decide)
    rw [quoted, quoteColumnPart, if_neg other, quote_quote]

/-- Every part of a quoted name is quoted already. -/
theorem quoteTable_quoteTable (name : Text) :
    quoteTable (quoteTable name) = quoteTable name := by
  by_cases literal : '(' ∈ name
  · rw [quoteTable, if_pos (literal_mem_quoteTable_iff.2 literal)]
  · refine (quoteTable_eq_self_iff (mt literal_mem_quoteTable_iff.1 literal)).2 ?_
    intro quoted member
    rw [splitOn_quoteTable literal] at member
    obtain ⟨part, -, rfl⟩ := List.mem_map.1 member
    exact opening_mem_quote part

/--
The name of a column is kept if it is an expression, quoted as one part if it
has no dot, and quoted apart from the name of its table if it has one.
-/
@[elab_as_elim]
theorem quoteColumn_cases {motive : Text → Text → Prop}
    (expression : ∀ name, '(' ∈ name → motive name name)
    (alone : ∀ name, '.' ∉ name → '(' ∉ name →
      motive name (quoteColumnPart name))
    (qualified : ∀ table column, '.' ∉ column →
      '(' ∉ table ++ '.' :: column →
        motive (table ++ '.' :: column)
          (quoteTable table ++ '.' :: quoteColumnPart column))
    (name : Text) : motive name (quoteColumn name) := by
  by_cases literal : '(' ∈ name
  · rw [quoteColumn, if_pos literal]
    exact expression name literal
  by_cases dotted : '.' ∈ name
  · obtain ⟨table, column, rfl, dotless⟩ := Text.exists_last_of_mem dotted
    rw [quoteColumn_append_dot dotless literal]
    exact qualified table column dotless literal
  · rw [quoteColumn_of_dotless dotted literal]
    exact alone name dotted literal

@[simp]
theorem unquote_quoteColumn (name : Text) :
    unquote (quoteColumn name) = unquote name := by
  refine quoteColumn_cases (motive := fun name quoted =>
    unquote quoted = unquote name) ?_ ?_ ?_ name
  · exact fun _ _ => rfl
  · exact fun name _ _ => unquote_quoteColumnPart name
  · intro table column _ _
    simp

/--
What was quoted has the shape of what it was made from: an expression, one
part, or a part after the name of a table.
-/
theorem quoteColumn_quoteColumn (name : Text) :
    quoteColumn (quoteColumn name) = quoteColumn name := by
  refine quoteColumn_cases (motive := fun _ quoted =>
    quoteColumn quoted = quoted) ?_ ?_ ?_ name
  · intro name literal
    rw [quoteColumn, if_pos literal]
  · intro name dotless literal
    rw [quoteColumn_of_dotless (mt dot_mem_quoteColumnPart_iff.1 dotless)
      (mt literal_mem_quoteColumnPart_iff.1 literal),
      quoteColumnPart_quoteColumnPart]
  · intro table column dotless literal
    have literal' :
        '(' ∉ quoteTable table ++ '.' :: quoteColumnPart column := by
      simpa [literal_mem_quoteTable_iff, literal_mem_quoteColumnPart_iff]
        using literal
    rw [quoteColumn_append_dot (mt dot_mem_quoteColumnPart_iff.1 dotless)
      literal', quoteTable_quoteTable, quoteColumnPart_quoteColumnPart]

end Identifier

/-! ## References that are read alike -/

section Alike

open TableName

variable {first second : Text} (same : split first = split second)

include same

theorem TableName.resolve_congr (defaultOwner : Text) :
    resolve first defaultOwner = resolve second defaultOwner := by
  rw [resolve, resolve, same]

namespace Session

variable {Cache : Type} (session : Session Cache)

theorem key_congr : session.key first = session.key second := by
  rw [key, key, same, resolve_congr same]

theorem loading_congr (server : Server) (past : List Call)
    (family : ServerFamily) :
    session.loading first server past family =
      session.loading second server past family := by
  rw [loading, loading, Loader.load, Loader.load, same, resolve_congr same]

/--
A session gives the same for references that are read alike, and does the
same for it.
-/
theorem outcome_table_congr [TableCache Cache] (server : Server)
    (memory : Memory Cache) (past : List Call) :
    (session.table first).outcome server memory past =
      (session.table second).outcome server memory past := by
  have keys := session.key_congr same
  cases known : memory.find? (session.key second) with
  | some table =>
      rw [session.outcome_table_of_find?_some first (keys ▸ known),
        session.outcome_table_of_find?_some second known]
  | none =>
      rw [session.outcome_table_of_find?_none first (keys ▸ known),
        session.outcome_table_of_find?_none second known,
        outcome_fetchTable, outcome_fetchTable, keys]
      simp only [session.loading_congr same]

end Session

end Alike

namespace Session

open Identifier TableName

/--
Quoting any name once or twice comes to the same and adds no more than
brackets.  A quoted name of a table resolves as the name does under every
default owner; to a session the two are one reference, with one key in its
memory and the same outcome of every load.
-/
theorem settled_by_quoting {Cache : Type} [TableCache Cache] (name : Text) :
    (quote (quote name) = quote name ∧
      quoteTable (quoteTable name) = quoteTable name ∧
      quoteColumn (quoteColumn name) = quoteColumn name) ∧
    (unquote (quote name) = unquote name ∧
      unquote (quoteTable name) = unquote name ∧
      unquote (quoteColumn name) = unquote name) ∧
    (∀ defaultOwner,
      resolve (quoteTable name) defaultOwner = resolve name defaultOwner ∧
        sameReference (quoteTable name) name defaultOwner) ∧
    ∀ (session : Session Cache) (server : Server) (memory : Memory Cache)
        (past : List Call),
      session.key (quoteTable name) = session.key name ∧
        (session.table (quoteTable name)).outcome server memory past =
          (session.table name).outcome server memory past := by
  have same : split (quoteTable name) = split name :=
    split_congr (unquote_quoteTable name)
  refine ⟨⟨quote_quote name, quoteTable_quoteTable name,
    quoteColumn_quoteColumn name⟩, ⟨unquote_quote name,
    unquote_quoteTable name, unquote_quoteColumn name⟩, ?_, ?_⟩
  · intro defaultOwner
    have resolved := resolve_congr same defaultOwner
    refine ⟨resolved, ?_⟩
    rw [sameReference, resolved, sameTable]
    simp
  · intro session server memory past
    exact ⟨session.key_congr same,
      session.outcome_table_congr same server memory past⟩

end Session

end SqlAnywhere
