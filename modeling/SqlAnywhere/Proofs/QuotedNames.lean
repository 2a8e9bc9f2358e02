import SqlAnywhere.Proofs.Bracketed
import SqlAnywhere.Proofs.KeyRestart

/-!
# Quoted names in statements about keys

The names that the catalog has for a table, its key and its sequence are quoted
as the references that users write when keys are restarted.  The statements
about keys name what the catalog has where these names come out as one part
between brackets, and other things elsewhere.
-/

namespace SqlAnywhere

variable {Cache : Type} [TableCache Cache]

/-! ## The statements about keys -/

namespace Identifier

theorem greatestKey_text (owner table column : Text) :
    (CatalogQuery.greatestKey owner table column).text =
      "SELECT MAX(".toList ++ quoteColumn column ++ ") FROM ".toList ++
        quoteTable (owner ++ '.' :: table) := rfl

/--
The question for the greatest key names column, owner and table as single
parts where they come out as such.
-/
theorem greatestKey_text_eq_iff {owner table column : Text}
    (plainOwner : '[' ∉ owner) (plainTable : '[' ∉ table)
    (plainColumn : '[' ∉ column) (dotless : '.' ∉ table) :
    (CatalogQuery.greatestKey owner table column).text =
        "SELECT MAX(".toList ++ bracketed column ++ ") FROM ".toList ++
          bracketed owner ++ '.' :: bracketed table ↔
      (IsOnePart column ∧ column ≠ ['*']) ∧
        IsOnePart owner ∧ '(' ∉ table := by
  have named := quoteTable_qualified_eq_iff plainOwner plainTable dotless
  rw [greatestKey_text]
  simp only [List.append_assoc, List.append_cancel_left_eq]
  constructor
  · intro same
    -- Once the column comes out whole, what follows it stands in one place on
    -- both sides.
    have part := isOnePart_of_quoteColumn plainColumn same
    rw [quoteColumn_of_isOnePart plainColumn part.1 part.2,
      List.append_cancel_left_eq, List.append_cancel_left_eq] at same
    exact ⟨part, named.1 same⟩
  · rintro ⟨part, parts⟩
    rw [quoteColumn_of_isOnePart plainColumn part.1 part.2, named.2 parts]

/--
The statement that restarts a sequence names it as a single part where it
comes out as such.
-/
theorem restartKeys_sequence_eq_iff {sequence : Text}
    (plain : '[' ∉ sequence) (owner table : Text) (next : Int64) :
    Maintenance.restartKeys owner table (.sequence sequence) next =
        "ALTER SEQUENCE ".toList ++ bracketed sequence ++
          " RESTART WITH ".toList ++ Numeral.ofInt64 next ↔
      IsOnePart sequence := by
  rw [Maintenance.restartKeys_sequence]
  simp only [List.append_assoc, List.append_cancel_left_eq]
  constructor
  · exact isOnePart_of_quoteTable plain
  · intro part
    rw [quoteTable_of_isOnePart plain part]

end Identifier

namespace Session

open Identifier

/--
The names in the statements with which keys of one column restart, at any
stage of a session.  Names without brackets stand in the question for the
greatest key as single parts exactly if none of them holds a parenthesis that
opens, neither column nor owner holds a dot, and the column is no star; a
sequence stands so in the statement given exactly if its name holds neither.
-/
theorem names_of_restart
    (server : Server) (session : Session Cache) (operations : List Operation)
    (reference : Text) {table : Table} {generator : KeyGenerator} {key : Text}
    (given :
      ((session.table reference).outcome server
        (Stage.after server session operations).memory
        (Stage.after server session operations).past).result =
          .ok (some table))
    (generated : table.generator = some generator)
    (single : table.primaryKey = [key])
    (plainKey : '[' ∉ key) (plainOwner : '[' ∉ table.name.owner)
    (plainTable : '[' ∉ table.name.name) :
    let stage := Stage.after server session operations
    let loading :=
      (session.table reference).outcome server stage.memory stage.past
    let restarting (next : Option Int64) :=
      (session.restartKeys reference next).outcome
        server stage.memory stage.past
    (∃ asked,
      (restarting none).calls = loading.calls ++ [asked] ∧
        (asked.query.text =
            "SELECT MAX(".toList ++ bracketed key ++ ") FROM ".toList ++
              bracketed table.name.owner ++ '.' :: bracketed table.name.name ↔
          (IsOnePart key ∧ key ≠ ['*']) ∧
            IsOnePart table.name.owner ∧ '(' ∉ table.name.name)) ∧
    ∀ sequence, generator = .sequence sequence → '[' ∉ sequence →
      ∀ next value,
        (nextKeyTaken server (stage.past ++ loading.calls) table next).result =
            .ok value →
        ∃ statement,
          (restarting next).result = .ok (some statement) ∧
            (statement =
                "ALTER SEQUENCE ".toList ++ bracketed sequence ++
                  " RESTART WITH ".toList ++ Numeral.ofInt64 value ↔
              IsOnePart sequence) := by
  intro stage loading restarting
  have holds : session.HoldsGiven stage.memory :=
    holdsGiven_after server session operations
  obtain ⟨⟨source, named⟩, -⟩ := holds.isGivenBy_of_table given
  have dotless : '.' ∉ table.name.name := by
    rw [named, TableName.resolve_name]
    exact TableName.dot_notMem_split source
  constructor
  · obtain ⟨calls, -⟩ := restartKeys_of_given given generated none
    rw [nextKeyTaken, calls_nextKeyAsked_of_single single] at calls
    exact ⟨_, calls,
      greatestKey_text_eq_iff plainOwner plainTable plainKey dotless⟩
  · rintro sequence rfl plain next value taken
    obtain ⟨-, result⟩ := restartKeys_of_given given generated next
    rw [taken] at result
    exact ⟨_, result, restartKeys_sequence_eq_iff plain _ _ value⟩

/-- Names with blanks and a colon in them stand as single parts. -/
theorem names_of_users_restart :
    let users : StoredTable :=
      { owner := "the owner".toList
        name := "Users".toList
        primaryKey := ["user id".toList]
        columns := [
          { name := "user id".toList, typeName := "integer".toList
            sequence := some "user:ids".toList }] }
    let server := StoredCatalog.server [users] .v12
    let session : Session TableEntries := ⟨"the owner".toList, some .v12, 1024⟩
    let restarting (next : Option Int64) :=
      (session.restartKeys "Users".toList next).outcome
        server session.start []
    (∃ asked ∈ (restarting none).calls,
      asked.query.text =
        "SELECT MAX([user id]) FROM [the owner].[Users]".toList) ∧
      (restarting (some 7)).result =
        .ok (some "ALTER SEQUENCE [user:ids] RESTART WITH 7".toList) := by
  intro users server session restarting
  obtain ⟨table, given, name, key, generator⟩ :
      ∃ table,
        ((session.table "Users".toList).outcome
            server session.start []).result = .ok (some table) ∧
          table.name = ⟨"the owner".toList, "Users".toList, "Users".toList⟩ ∧
          table.primaryKey = ["user id".toList] ∧
          table.generator = some (.sequence "user:ids".toList) :=
    exists_table_of_any (by decide +kernel)
  obtain ⟨⟨asked, calls, question⟩, restarts⟩ :=
    names_of_restart server session [] "Users".toList given generator key
      (by decide) (by rw [name]; decide) (by rw [name]; decide)
  obtain ⟨statement, result, sequence⟩ :=
    restarts _ rfl (by decide) (some 7) 7 rfl
  rw [name] at question
  have part (name : Text) (dotless : '.' ∉ name) (literal : '(' ∉ name) :
      IsOnePart name := ⟨dotless, literal⟩
  constructor
  · refine ⟨asked, ?_, ?_⟩
    · exact calls ▸ List.mem_append_right _ (List.mem_singleton_self asked)
    · exact question.2 ⟨⟨part _ (by decide) (by decide), by decide⟩,
        part _ (by decide) (by decide), by decide⟩
  · rw [sequence.2 (part _ (by decide) (by decide))] at result
    exact result

/-- An owner and a sequence with dots in their names are taken apart. -/
theorem dotted_names_of_restart :
    let users : StoredTable :=
      { owner := "j.smith".toList
        name := "Users".toList
        primaryKey := ["id".toList]
        columns := [
          { name := "id".toList, typeName := "integer".toList
            sequence := some "users.ids".toList }] }
    let asked := Call.greatestKey "j.smith".toList "Users".toList "id".toList
    let server := (StoredCatalog.server [users] .v12).answering asked
      [[("max".toList, .integer 41)]]
    let session : Session TableEntries := ⟨"j.smith".toList, some .v12, 1024⟩
    let restarting :=
      (session.restartKeys "Users".toList none).outcome
        server session.start []
    asked ∈ restarting.calls ∧
      asked.query.text = "SELECT MAX([id]) FROM [j].[smith].[Users]".toList ∧
      asked.query.text ≠ "SELECT MAX([id]) FROM [j.smith].[Users]".toList ∧
      restarting.result =
        .ok (some "ALTER SEQUENCE [users].[ids] RESTART WITH 42".toList) := by
  intro users asked server session restarting
  exact ⟨by decide +kernel, by decide +kernel, by decide +kernel, rfl⟩

end Session

end SqlAnywhere
