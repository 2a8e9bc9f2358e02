import Mathlib.Data.Finset.Card
import SqlAnywhere.Proofs.RowReading

/-!
# Updates of a row

An update gives a column a value: it changes the cell that the column has, and
adds one at the end if it has none.  After a run of updates a column has the
value that it was given last, in whatever ASCII case, and else the value that
it had.  No cell ever moves or changes its name, and cells behind the first
one of their name are never reached.
-/

namespace SqlAnywhere.Row

/--
A row after updates in their order, each of which gives a column a value.
-/
def setAll (row : Row) (updates : List (Text × Value)) : Row :=
  updates.foldl (fun row update => set row update.1 update.2) row

@[simp]
theorem setAll_nil (row : Row) : setAll row [] = row := rfl

@[simp]
theorem setAll_cons (row : Row) (update : Text × Value)
    (updates : List (Text × Value)) :
    setAll row (update :: updates) =
      setAll (set row update.1 update.2) updates := rfl

/-- The names in a row, each of them once, whatever its ASCII case. -/
def names (row : Row) : Finset Text :=
  (row.map fun cell => Text.foldAscii cell.1).toFinset

@[simp]
theorem names_nil : names [] = ∅ := rfl

@[simp]
theorem names_cons (cell : Text × Value) (row : Row) :
    names (cell :: row) = insert (Text.foldAscii cell.1) (names row) :=
  List.toFinset_cons

/-! ## One update -/

/--
A column has the value that it is given, and every other one has what it had.
-/
theorem get?_set (row : Row) (name : Text) (value : Value) (column : Text) :
    get? (set row name value) column =
      if Text.sameLetters name column then some value
      else get? row column := by
  induction row with
  | nil => rw [set, get?_cons]
  | cons cell row ih =>
      obtain ⟨other, old⟩ := cell
      rw [set]
      split
      · next same =>
          have either : Text.sameLetters other column =
              Text.sameLetters name column := by
            rw [Text.sameLetters_iff] at same
            rw [Text.sameLetters, same, Text.sameLetters]
          rw [get?_cons, get?_cons, either]
          split <;> rfl
      · next different =>
          rw [get?_cons, ih, get?_cons]
          split
          · next found =>
              -- A column has not the letters of both names, which differ.
              have apart : ¬ Text.sameLetters name column := by
                rw [Text.sameLetters_comm]
                exact fun same =>
                  different (Text.sameLetters_trans found same)
              rw [if_neg apart]
          · rfl

/-- An update adds a name to a row if it is new there. -/
theorem names_set (row : Row) (name : Text) (value : Value) :
    names (set row name value) =
      insert (Text.foldAscii name) (names row) := by
  induction row with
  | nil => rfl
  | cons cell row ih =>
      rw [set]
      split
      · next same =>
          rw [Text.sameLetters_iff] at same
          simp [same]
      · rw [names_cons, ih, names_cons, Finset.insert_comm]

/-- A row is longer by a cell after an update of a column that it lacks. -/
theorem length_set (row : Row) (name : Text) (value : Value) :
    (set row name value).length =
      row.length + if Text.foldAscii name ∈ names row then 0 else 1 := by
  induction row with
  | nil => rfl
  | cons cell row ih =>
      rw [set]
      split
      · next same =>
          rw [Text.sameLetters_iff] at same
          simp [same]
      · next different =>
          rw [Text.sameLetters_iff] at different
          simp only [List.length_cons, ih, names_cons, Finset.mem_insert,
            Ne.symm different, false_or]
          omega

section Before

variable {before : Row} {name : Text}

/-- An update passes over cells of other names. -/
theorem set_append_of_lacks
    (lacks : ∀ cell ∈ before, ¬ Text.sameLetters cell.1 name)
    (rest : Row) (value : Value) :
    set (before ++ rest) name value = before ++ set rest name value := by
  induction before with
  | nil => rfl
  | cons cell before ih =>
      obtain ⟨first, others⟩ := List.forall_mem_cons.1 lacks
      rw [List.cons_append, set, if_neg first, ih others, List.cons_append]

/--
An update reaches no further than the first cell of the name, and keeps all
names.
-/
theorem exists_set_append_of_holds
    (holds : ∃ cell ∈ before, Text.sameLetters cell.1 name)
    (value : Value) :
    ∃ before', before'.map Prod.fst = before.map Prod.fst ∧
      ∀ rest, set (before ++ rest) name value = before' ++ rest := by
  induction before with
  | nil => simp at holds
  | cons cell before ih =>
      by_cases first : Text.sameLetters cell.1 name
      · refine ⟨(cell.1, value) :: before, rfl, fun rest => ?_⟩
        rw [List.cons_append, set, if_pos first, List.cons_append]
      · have others : ∃ cell ∈ before, Text.sameLetters cell.1 name :=
          ((List.exists_mem_cons_iff _ _ _).1 holds).resolve_left first
        obtain ⟨before', kept, sets⟩ := ih others
        refine ⟨cell :: before', by simp [kept], fun rest => ?_⟩
        rw [List.cons_append, set, if_neg first, sets, List.cons_append]

end Before

/--
Whether an update of a column reaches a cell with others before it: the cell
is the first one of the name, in any ASCII case.
-/
def Reaches (column : Text) (before : Row) (cell : Text × Value) : Prop :=
  Text.sameLetters cell.1 column ∧
    ∀ earlier ∈ before, ¬ Text.sameLetters earlier.1 column

instance (column : Text) (before : Row) (cell : Text × Value) :
    Decidable (Reaches column before cell) :=
  inferInstanceAs (Decidable (_ ∧ ∀ earlier ∈ before, _))

/-- Which cells are reached depends on the names before them alone. -/
theorem reaches_congr {before before' : Row}
    (same : before'.map Prod.fst = before.map Prod.fst)
    (column : Text) (cell : Text × Value) :
    Reaches column before' cell ↔ Reaches column before cell := by
  have named (row : Row) :
      (∀ earlier ∈ row, ¬ Text.sameLetters earlier.1 column) ↔
        ∀ name ∈ row.map Prod.fst, ¬ Text.sameLetters name column := by
    rw [List.forall_mem_map]
  rw [Reaches, Reaches, named, named, same]

/-- An update leaves a cell that it does not reach in its place. -/
theorem exists_set_of_not_reaches {before : Row} {cell : Text × Value}
    {name : Text} (apart : ¬ Reaches name before cell) (value : Value)
    (after : Row) :
    ∃ before' after', before'.map Prod.fst = before.map Prod.fst ∧
      set (before ++ cell :: after) name value =
        before' ++ cell :: after' := by
  by_cases holds : ∃ earlier ∈ before, Text.sameLetters earlier.1 name
  · obtain ⟨before', kept, sets⟩ := exists_set_append_of_holds holds value
    exact ⟨before', after, kept, sets (cell :: after)⟩
  · have lacks : ∀ earlier ∈ before, ¬ Text.sameLetters earlier.1 name :=
      fun earlier member same => holds ⟨earlier, member, same⟩
    have other : ¬ Text.sameLetters cell.1 name :=
      fun same => apart ⟨same, lacks⟩
    refine ⟨before, set after name value, rfl, ?_⟩
    rw [set_append_of_lacks lacks, set, if_neg other]

/-- No name in a row is changed or moved. -/
theorem names_isPrefix_set (row : Row) (name : Text) (value : Value) :
    row.map Prod.fst <+: (set row name value).map Prod.fst := by
  induction row with
  | nil => exact List.nil_prefix
  | cons cell row ih =>
      rw [set]
      split
      · exact List.prefix_refl _
      · exact (List.prefix_cons_inj cell.1).2 ih

/-! ## Runs of updates -/

/--
A column has the value that it was given last, or else the one that it had.
-/
theorem get?_setAll (row : Row) (updates : List (Text × Value))
    (column : Text) :
    get? (setAll row updates) column =
      (get? updates.reverse column).or (get? row column) := by
  induction updates generalizing row with
  | nil => rfl
  | cons update updates ih =>
      rw [setAll_cons, ih, get?_set, List.reverse_cons, get?_append,
        Option.or_assoc, get?_cons]
      split <;> rfl

/--
Of a name and others, the new ones are that name, unless it is old, and the
others that are neither old nor that name.
-/
theorem card_insert_sdiff (name : Text) (later old : Finset Text) :
    (insert name later \ old).card =
      (if name ∈ old then 0 else 1) + (later \ insert name old).card := by
  split
  · next known =>
      rw [Finset.insert_eq_of_mem known, Finset.insert_sdiff_of_mem _ known,
        Nat.zero_add]
  · next new =>
      have apart : name ∉ later \ insert name old := by simp
      have parts : insert name later \ old =
          insert name (later \ insert name old) := by
        ext other
        simp only [Finset.mem_sdiff, Finset.mem_insert]
        grind
      rw [parts, Finset.card_insert_of_notMem apart, Nat.add_comm]

/--
A row is longer by as many cells as there are names in the updates that it
lacks.
-/
theorem length_setAll (row : Row) (updates : List (Text × Value)) :
    (setAll row updates).length =
      row.length + (names updates \ names row).card := by
  induction updates generalizing row with
  | nil => simp
  | cons update updates ih =>
      rw [setAll_cons, ih, length_set, names_set, names_cons, Nat.add_assoc,
        card_insert_sdiff]

/-- Updates leave a cell that none of them reaches in its place. -/
theorem exists_setAll_of_not_reaches {before : Row} {cell : Text × Value}
    {updates : List (Text × Value)}
    (apart : ∀ update ∈ updates, ¬ Reaches update.1 before cell)
    (after : Row) :
    ∃ before' after', before'.map Prod.fst = before.map Prod.fst ∧
      setAll (before ++ cell :: after) updates =
        before' ++ cell :: after' := by
  induction updates generalizing before after with
  | nil => exact ⟨before, after, rfl, rfl⟩
  | cons update updates ih =>
      obtain ⟨first, others⟩ := List.forall_mem_cons.1 apart
      obtain ⟨middle, rest, kept, once⟩ :=
        exists_set_of_not_reaches first update.2 after
      have apart' : ∀ update ∈ updates, ¬ Reaches update.1 middle cell := by
        intro later member
        rw [reaches_congr kept]
        exact others later member
      obtain ⟨before', after', kept', all⟩ := ih apart' rest
      refine ⟨before', after', kept'.trans kept, ?_⟩
      rw [setAll_cons, once, all]

theorem names_isPrefix_setAll (row : Row) (updates : List (Text × Value)) :
    row.map Prod.fst <+: (setAll row updates).map Prod.fst := by
  induction updates generalizing row with
  | nil => exact List.prefix_refl _
  | cons update updates ih =>
      exact (names_isPrefix_set row update.1 update.2).trans (ih _)

/--
What a run of updates makes of a row, in which names can be there several
times and in different cases.  A column has the value that the last update of
it gives, or else that of the first cell of its name in the row.  All cells
keep their places and names, and those that no update reaches their values.
The row grows by as many cells as there are names in the updates that it
lacks.  What is read from a column, as a text or as an integer, depends only
on what the column has.
-/
theorem laws_of_updates (row : Row) (updates : List (Text × Value)) :
    (∀ column value, get? (setAll row updates) column = some value ↔
      HasLast updates column value ∨
        (∀ update ∈ updates, ¬ Text.sameLetters update.1 column) ∧
          HasFirst row column value) ∧
    (row.map Prod.fst <+: (setAll row updates).map Prod.fst ∧
      ∀ before cell after, row = before ++ cell :: after →
        (∀ update ∈ updates, ¬ Reaches update.1 before cell) →
          (setAll row updates)[before.length]? = some cell) ∧
    (setAll row updates).length =
      row.length + (names updates \ names row).card ∧
    ∀ (other : Row) (column : Text),
      get? other column = get? (setAll row updates) column →
        text other column = text (setAll row updates) column ∧
        optionalText other column =
          optionalText (setAll row updates) column ∧
        integer other column = integer (setAll row updates) column ∧
        optionalInteger other column =
          optionalInteger (setAll row updates) column := by
  refine ⟨?_, ⟨names_isPrefix_setAll row updates, ?_⟩,
    length_setAll row updates, ?_⟩
  · intro column value
    rw [get?_setAll, Option.or_eq_some_iff, get?_eq_some_iff, get?_eq_none_iff,
      get?_eq_some_iff, hasFirst_reverse_iff]
    simp only [List.mem_reverse]
  · rintro before cell after rfl apart
    obtain ⟨before', after', kept, all⟩ :=
      exists_setAll_of_not_reaches apart after
    have place : before'.length = before.length := by
      simpa using congrArg List.length kept
    rw [all, ← place]
    simp
  · intro other column same
    exact ⟨text_congr same, optionalText_congr same, integer_congr same,
      optionalInteger_congr same⟩

/--
A row with one name in two cases.  The first of its cells is updated under
both and under a third one, and a new column under two.
-/
theorem width_after_updates :
    let row : Row :=
      [("width".toList, .integer 4), ("Scale".toList, .integer 2),
        ("WIDTH".toList, .integer 7)]
    let updates : List (Text × Value) :=
      [("WIDTH".toList, .integer 5), ("nulls".toList, .text "Y".toList),
        ("NULLS".toList, .null), ("Width".toList, .text " 6".toList)]
    get? (setAll row updates) "wiDth".toList = some (.text " 6".toList) ∧
      get? (setAll row updates) "scale".toList = some (.integer 2) ∧
      (setAll row updates)[2]? = some ("WIDTH".toList, .integer 7) ∧
      (setAll row updates).length = 4 ∧
      integer (setAll row updates) "wiDth".toList = .ok 6 := by
  intro row updates
  obtain ⟨found, ⟨-, kept⟩, length, reads⟩ := laws_of_updates row updates
  have last : HasLast updates "wiDth".toList (.text " 6".toList) :=
    ⟨updates.take 3, _, [], rfl, by decide, nofun⟩
  have apart : ∀ update ∈ updates,
      ¬ Text.sameLetters update.1 "scale".toList := by decide
  have first : HasFirst row "scale".toList (.integer 2) :=
    ⟨row.take 1, _, row.drop 2, rfl, by decide, by decide⟩
  have shadowed : ∀ update ∈ updates,
      ¬ Reaches update.1 (row.take 2) ("WIDTH".toList, .integer 7) := by
    decide
  have width := (found _ _).2 (.inl last)
  have alike : get? [("width".toList, .text " 6".toList)] "wiDth".toList =
      get? (setAll row updates) "wiDth".toList := by
    rw [width]
    rfl
  have unchanged := kept (row.take 2) _ [] rfl shadowed
  refine ⟨width, (found _ _).2 (.inr ⟨apart, first⟩), unchanged, ?_, ?_⟩
  · rw [length]
    decide
  · rw [← (reads _ _ alike).2.2.1]
    rfl

end SqlAnywhere.Row
