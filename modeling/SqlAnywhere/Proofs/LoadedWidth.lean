import SqlAnywhere.Proofs.LoadedTable
import SqlAnywhere.Proofs.RowReading
import SqlAnywhere.Proofs.SizedType

/-!
# Widths of loaded columns

The catalog reports the width of a column beside its type, or within the text
of the type.  The size of a loaded column is the same either way.  But its
portable type is chosen before a width beside the type is looked at, so that
bit fields and tiny integers are small integers there, where the same width
within the text can give them another type.
-/

namespace SqlAnywhere

variable {Cache : Type} [TableCache Cache]

/-! ## Rows that are alike -/

/-- Rows that differ at most in the type and in the width that they report. -/
def SameButType (row row' : Row) : Prop :=
  ∀ column, ¬ Text.sameLetters column "base_type".toList →
    ¬ Text.sameLetters column "width".toList →
      Row.get? row column = Row.get? row' column

/--
What is read from a row is read from one with another type and another width,
but for these.
-/
theorem ColumnRow.IsReadFrom.of_sameButType {read : ColumnRow} {row row' : Row}
    (isRead : read.IsReadFrom row) (same : SameButType row row')
    {typeName : Text}
    (typed : Row.trimmedText row' "base_type".toList = .ok typeName)
    {width : Option Int64}
    (wide : Row.optionalInteger row' "width".toList = .ok width) :
    ({ read with typeName, width } : ColumnRow).IsReadFrom row' where
  name := by
    rw [← Row.trimmedText_congr (same _ (by decide) (by decide))]
    exact isRead.name
  typeName := typed
  width := wide
  scale := by
    rw [← Row.optionalInteger_congr (same _ (by decide) (by decide))]
    exact isRead.scale
  nullable := by
    rw [← Row.flag_congr (same _ (by decide) (by decide))]
    exact isRead.nullable
  unique := by
    rw [← Row.flag_congr (same _ (by decide) (by decide))]
    exact isRead.unique
  rawDefault := by
    rw [← Row.optionalText_congr (same _ (by decide) (by decide))]
    exact isRead.rawDefault
  sequence := by
    rw [← Row.optionalText_congr (same _ (by decide) (by decide))]
    exact isRead.sequence
  comment := by
    rw [← Row.optionalText_congr (same _ (by decide) (by decide))]
    exact isRead.comment

/--
Two rows about one column.  The first reports the width beside the name of
the type, and the second within the text of the type, with any other width
beside it; all else is the same.
-/
structure MovesWidth (name : Text) (width : Int64) (other : Option Int64)
    (row row' : Row) : Prop where
  typeBeside : Row.text row "base_type".toList = .ok name
  widthBeside : Row.optionalInteger row "width".toList = .ok (some width)
  typeWithin :
    Row.text row' "base_type".toList =
      .ok (name ++ '(' :: Numeral.ofInt64 width ++ [')'])
  widthWithin : Row.optionalInteger row' "width".toList = .ok other
  same : SameButType row row'

/--
The rows about a stored column with its width beside the type and within it.
-/
theorem StoredColumn.movesWidth_row (column : StoredColumn)
    (family : ServerFamily) (primaryKey : List Text) (place : Nat)
    (name : Text) (width : Int64) (other : Option Int64) :
    let row (typeName : Text) (width : Option Int64) :=
      ({ column with typeName, width } : StoredColumn).row family primaryKey
        place
    MovesWidth name width other (row name (some width))
      (row (name ++ '(' :: Numeral.ofInt64 width ++ [')']) other) where
  typeBeside := rfl
  widthBeside := rfl
  typeWithin := rfl
  widthWithin := by cases other <;> rfl
  same := by
    intro asked typed wide
    rw [Text.sameLetters_comm, Bool.not_eq_true] at typed wide
    simp only [Row.get?, StoredColumn.row, List.find?_cons, typed, wide]
    rfl

/-! ## Columns with a width -/

open ReportedType

namespace ColumnRow

variable (primaryKey : List Text) (row : ColumnRow)

/-- Whole numbers have the same defaults, whatever their size. -/
theorem default?_of_isInteger {portable : PortableType}
    (integer : portable.isInteger) :
    row.default? primaryKey portable = row.default? primaryKey .integer := by
  cases portable <;> first | rfl | exact absurd integer (by decide)

/--
A width gives no other default than the name of a type does, unless it makes
a small integer a truth value.
-/
theorem default?_of_typedAs {leading : Text} {width : Int64}
    {named portable : PortableType}
    (typed : TypedAs leading named (some width) portable)
    (small : IsNarrow leading → named = .smallInt)
    (several : ¬ (IsNarrow leading ∧ width = 1)) :
    row.default? primaryKey portable = row.default? primaryKey named := by
  have integer (whole : portable.isInteger) (narrow : IsNarrow leading) :
      row.default? primaryKey portable = row.default? primaryKey named := by
    have whole' : PortableType.smallInt.isInteger := rfl
    rw [small narrow, row.default?_of_isInteger primaryKey whole,
      row.default?_of_isInteger primaryKey whole']
  cases typed with
  | byWidth given =>
      cases given with
      | boolean narrow single => exact absurd ⟨narrow, single⟩ several
      | integer bits | bigInt bits => exact integer (by decide) (.inl bits)
  | byName => rfl

end ColumnRow

/--
How a column with a width beside its type compares with the one that has the
width within the text of its type.  After the name of a type the sizes are
the same, and the portable type of the second is what the width gives, else
that of the first; only a bit field or a tiny integer of width one can have
another default.  After any other text the width is not read, and all is the
same but the size, which is what is reported beside the type.
-/
structure Column.MovesWidth (name : Text) (width : Int64)
    (other : Option Int64) (beside within : Column) : Prop where
  size : beside.size = some width
  sized :
    IsTypeName name →
      within.size = some width ∧
        TypedAs (ofText name).leading beside.portable (some width)
          within.portable ∧
        (¬ (IsNarrow (ofText name).leading ∧ width = 1) →
          within.default = beside.default)
  unsized :
    ¬ IsTypeName name →
      within.size = other ∧ within.portable = beside.portable ∧
        within.default = beside.default
  narrow : IsNarrow (ofText name).leading → beside.portable = .smallInt
  frame :
    within =
      { beside with
        typeName := within.typeName
        portable := within.portable
        size := within.size
        precision := within.precision
        default := within.default }

section Described

variable {name : Text} (plain : '(' ∉ name) {width : Int64}
  {other : Option Int64} {primaryKey : List Text}

include plain

/-- The columns that are read with the width beside the type and within it. -/
theorem ColumnRow.movesWidth {read : ColumnRow}
    (typed : read.typeName = Text.trim name)
    (wide : read.width = some width) :
    (read.toColumn primaryKey).MovesWidth name width other
      (({ read with
          typeName :=
            Text.trim (name ++ '(' :: Numeral.ofInt64 width ++ [')'])
          width := other } : ColumnRow).toColumn primaryKey) := by
  have beside : ofText read.typeName = ofText name := by
    rw [typed, ofText_trim]
  have within := ofText_trim (name ++ '(' :: Numeral.ofInt64 width ++ [')'])
  have sized := ofText_sized plain width
  have portable : (ofText read.typeName).portable = (ofText name).portable :=
    congrArg ReportedType.portable beside
  have size : (ofText read.typeName).size.or read.width = some width := by
    rw [beside, size_of_plain plain, wide]
    rfl
  have narrow : IsNarrow (ofText name).leading →
      (ofText read.typeName).portable = .smallInt := by
    rw [portable]
    exact portable_of_isNarrow plain
  by_cases named : IsTypeName name
  · have typed' := portable_sized plain named width
    rw [← portable, ← within] at typed'
    rw [if_pos named, ← within] at sized
    exact {
      size
      sized := fun _ => ⟨by simp only [toColumn, sized, Option.some_or], typed',
        read.default?_of_typedAs primaryKey typed' narrow⟩
      unsized := fun unnamed => absurd named unnamed
      narrow
      frame := by simp only [toColumn, sized, beside]; rfl }
  · rw [if_neg named, ← within, ← beside] at sized
    have same := congrArg ReportedType.portable sized
    have unread : (ofText read.typeName).size.or other = other := by
      rw [beside, size_of_plain plain, Option.none_or]
    exact {
      size
      sized := fun named' => absurd named' named
      unsized := fun _ => ⟨by simp only [toColumn, sized, unread], same,
        congrArg (fun portable => read.default? primaryKey portable) same⟩
      narrow
      frame := by simp only [toColumn, sized]; rfl }

variable {row row' : Row} (moves : MovesWidth name width other row row')

include moves

/--
A row with the width beside the type describes a column where the row with
the width within it does, and the columns compare so.
-/
theorem MovesWidth.isDescribedBy {column : Column}
    (described : column.IsDescribedBy primaryKey row) :
    ∃ column',
      column'.IsDescribedBy primaryKey row' ∧
        column.MovesWidth name width other column' := by
  obtain ⟨read, isRead, rfl⟩ := described
  have typed : read.typeName = Text.trim name := by
    have found := isRead.typeName
    rw [Row.trimmedText, moves.typeBeside] at found
    exact (Except.ok.inj found).symm
  have wide : read.width = some width := by
    have found := isRead.width
    rw [moves.widthBeside] at found
    exact (Except.ok.inj found).symm
  have typed' : Row.trimmedText row' "base_type".toList =
      .ok (Text.trim (name ++ '(' :: Numeral.ofInt64 width ++ [')'])) := by
    rw [Row.trimmedText, moves.typeWithin]
    rfl
  exact ⟨_,
    ⟨_, isRead.of_sameButType moves.same typed' moves.widthWithin, rfl⟩,
    ColumnRow.movesWidth plain typed wide⟩

omit plain in
/--
A row with the width within the type describes a column only where the one
with the width beside it does.
-/
theorem MovesWidth.exists_isDescribedBy {column' : Column}
    (described : column'.IsDescribedBy primaryKey row') :
    ∃ column : Column, column.IsDescribedBy primaryKey row := by
  obtain ⟨read, isRead, -⟩ := described
  have same : SameButType row' row :=
    fun column typed wide => (moves.same column typed wide).symm
  have typed :
      Row.trimmedText row "base_type".toList = .ok (Text.trim name) := by
    rw [Row.trimmedText, moves.typeBeside]
    rfl
  exact ⟨_, _, isRead.of_sameButType same typed moves.widthBeside, rfl⟩

end Described

/-! ## Loads with a width -/

/-- A server that gives rows to one call gives them to it. -/
theorem Server.answering_self (server : Server) (call : Call)
    (rows : List Row) (past : List Call) :
    server.answering call rows past call = .ok rows :=
  if_pos rfl

/-- A server that gives rows to one call answers the others as before. -/
theorem Server.answering_of_ne (server : Server) {call asked : Call}
    (other : asked ≠ call) (rows : List Row) (past : List Call) :
    server.answering call rows past asked = server past asked :=
  if_neg other

namespace Loader

/--
Of rows that describe columns each describes one, and another row in its
place another column in that place.
-/
theorem exists_column_of_columnsOfRows {primaryKey : List Text}
    {before after : List Row} {row : Row} {columns : List Column}
    (read : columnsOfRows primaryKey (before ++ row :: after) = .ok columns) :
    ∃ first column last,
      columns = first ++ column :: last ∧
        column.IsDescribedBy primaryKey row ∧
        ∀ row' column', column'.IsDescribedBy primaryKey row' →
          columnsOfRows primaryKey (before ++ row' :: after) =
            .ok (first ++ column' :: last) := by
  simp only [columnsOfRows_eq_ok_iff] at read ⊢
  induction before generalizing columns with
  | nil =>
      obtain ⟨column, last, here, later, rfl⟩ :=
        List.forall₂_cons_left_iff.1 read
      exact ⟨[], column, last, rfl, here,
        fun row' column' described => .cons described later⟩
  | cons earlier before ih =>
      obtain ⟨front, others, here, later, rfl⟩ :=
        List.forall₂_cons_left_iff.1 read
      obtain ⟨first, column, last, rfl, described, replaced⟩ := ih later
      exact ⟨front :: first, column, last, rfl, described,
        fun row' column' described' =>
          .cons here (replaced row' column' described')⟩

/--
Ends of two loads of a table: both without one and alike, or with tables that
differ in one column, where a relation holds under the primary key.
-/
inductive DifferInColumn (name : TableName)
    (relates : List Text → Column → Column → Prop) :
    Except CatalogError (Option Table) → Except CatalogError (Option Table) →
      Prop where
  | refused (error : CatalogError) :
      DifferInColumn name relates (.error error) (.error error)
  | absent : DifferInColumn name relates (.ok none) (.ok none)
  | loaded {primaryKey : List Text} {first last : List Column}
      {column column' : Column} (related : relates primaryKey column column')
      (keys : List ForeignKey) :
      DifferInColumn name relates
        (.ok (some (.ofColumns name primaryKey (first ++ column :: last) keys)))
        (.ok (some (.ofColumns name primaryKey (first ++ column' :: last) keys)))

section Widths

variable {name : Text} (plain : '(' ∉ name) {width : Int64}
  {other : Option Int64} {row row' : Row}
  (moves : MovesWidth name width other row row') (before after : List Row)

include plain moves

/--
Rows with the width beside a type and within it describe the same columns but
for that of the row, or none.
-/
theorem columnsOfRows_of_movesWidth (primaryKey : List Text) :
    (∃ first column column' last,
      columnsOfRows primaryKey (before ++ row :: after) =
          .ok (first ++ column :: last) ∧
        columnsOfRows primaryKey (before ++ row' :: after) =
          .ok (first ++ column' :: last) ∧
        column.IsDescribedBy primaryKey row ∧
        column'.IsDescribedBy primaryKey row' ∧
        column.MovesWidth name width other column') ∨
    ∃ error error',
      columnsOfRows primaryKey (before ++ row :: after) = .error error ∧
        columnsOfRows primaryKey (before ++ row' :: after) = .error error' := by
  cases beside : columnsOfRows primaryKey (before ++ row :: after) with
  | ok columns =>
      obtain ⟨first, column, last, rfl, described, replaced⟩ :=
        exists_column_of_columnsOfRows beside
      obtain ⟨column', described', related⟩ :=
        moves.isDescribedBy plain described
      exact .inl ⟨first, column, column', last, rfl,
        replaced row' column' described', described, described', related⟩
  | error error =>
      cases within : columnsOfRows primaryKey (before ++ row' :: after) with
      | error error' => exact .inr ⟨error, error', rfl, rfl⟩
      | ok columns =>
          obtain ⟨first, column', last, -, described', replaced⟩ :=
            exists_column_of_columnsOfRows within
          obtain ⟨column, described⟩ := moves.exists_isDescribedBy described'
          rw [replaced row column described] at beside
          cases beside

variable {Memory : Type} (server : Server) (memory : Memory)
  (past : List Call) (family : ServerFamily)

/--
Tables that are described from rows with a width beside a type and within it
differ in the column of the row.
-/
theorem differInColumn_describe (table : TableName) :
    let asked := callAbout .columns family table
    let result (row : Row) :=
      ((describe family table).outcome
        (server.answering asked (before ++ row :: after)) memory past).result
    DifferInColumn table
      (fun primaryKey column column' =>
        column.IsDescribedBy primaryKey row ∧
          column'.IsDescribedBy primaryKey row' ∧
            column.MovesWidth name width other column')
      (result row) (result row') := by
  intro asked result
  have key : callAbout .primaryKeys family table ≠ asked :=
    fun same => nomatch congrArg Call.query same
  have foreign : callAbout .foreignKeys family table ≠ asked :=
    fun same => nomatch congrArg Call.query same
  have given (primaryKey : List Text) (rows : List Row) (past : List Call) :
      columnsIn primaryKey
          (server.answering asked rows past (callAbout .columns family table)) =
        columnsOfRows primaryKey rows := by
    rw [server.answering_self]
    rfl
  simp only [result, outcome_describe, server.answering_of_ne key,
    server.answering_of_ne foreign, given]
  cases primaryKeyIn (server past (callAbout .primaryKeys family table)) with
  | error error => exact .refused _
  | ok primaryKey =>
      dsimp only
      rcases columnsOfRows_of_movesWidth plain moves before after primaryKey with
        ⟨first, column, column', last, beside, within, related⟩ |
          ⟨error, error', beside, within⟩
      · have some' (column : Column) :
            ∃ head tail, first ++ column :: last = head :: tail :=
          List.exists_cons_of_ne_nil <|
            List.append_ne_nil_of_right_ne_nil first (List.cons_ne_nil _ _)
        obtain ⟨head, tail, shape⟩ := some' column
        obtain ⟨head', tail', shape'⟩ := some' column'
        rw [beside, within, shape, shape']
        dsimp only
        cases foreignKeysIn family
          (server _ (callAbout .foreignKeys family table)) with
        | error error => exact .refused _
        | ok keys =>
            rw [← shape, ← shape']
            exact .loaded related keys
      · rw [beside, within]
        exact .absent

/--
Loads of a table for which one row reports a width, beside the type of a
column or within it, end alike without a table, or with tables that differ in
the column of that row alone.
-/
theorem width_beside_and_within (defaultOwner reference : Text) :
    let table := TableName.resolve reference defaultOwner
    let result (row : Row) :=
      ((load family defaultOwner reference).outcome
        (server.answering (callAbout .columns family table)
          (before ++ row :: after)) memory past).result
    DifferInColumn table
      (fun primaryKey column column' =>
        column.IsDescribedBy primaryKey row ∧
          column'.IsDescribedBy primaryKey row' ∧
            column.MovesWidth name width other column')
      (result row) (result row') := by
  intro table result
  have count : Call.ownerCount table.name ≠ callAbout .columns family table :=
    fun same => nomatch congrArg Call.query same
  by_cases bare : TableName.IsBare reference
  · simp only [result, outcome_load_of_isBare family defaultOwner bare]
    rw [server.answering_of_ne count, server.answering_of_ne count]
    cases ownersIn table.name (server past (.ownerCount table.name)) with
    | error error => exact .refused _
    | ok owners =>
        by_cases several : 1 < owners
        · simp only [if_pos several]
          exact .refused _
        · simp only [if_neg several]
          exact differInColumn_describe plain moves before after server memory _
            family table
  · simp only [result, outcome_load_of_not_isBare family defaultOwner bare]
    exact differInColumn_describe plain moves before after server memory past
      family table

end Widths

/--
A bit field of forty bits in a stored table: a small integer with the width
beside its type, and a larger one with the width within it, with the same
size and default.
-/
theorem flags_beside_and_within :
    let flags : StoredColumn :=
      { name := "flags".toList, typeName := "bit".toList
        default := some "7".toList }
    let settings : StoredTable :=
      { owner := "dba".toList, name := "Settings".toList
        primaryKey := [], columns := [flags] }
    let row (typeName : String) (width : Option Int64) :=
      ({ flags with typeName := typeName.toList, width } : StoredColumn).row
        .v12 [] 0
    let result (row : Row) :=
      ((load .v12 "dba".toList "dba.Settings".toList).outcome
        ((StoredCatalog.server [settings] .v12).answering
          (callAbout .columns .v12
            (TableName.resolve "dba.Settings".toList "dba".toList))
          ([] ++ row :: [])) () []).result
    '(' ∉ "bit".toList ∧
      MovesWidth "bit".toList 40 none (row "bit" (some 40))
        (row "bit(40)" none) ∧
      DifferInColumn (TableName.resolve "dba.Settings".toList "dba".toList)
        (fun primaryKey column column' =>
          column.IsDescribedBy primaryKey (row "bit" (some 40)) ∧
            column'.IsDescribedBy primaryKey (row "bit(40)" none) ∧
              column.MovesWidth "bit".toList 40 none column')
        (result (row "bit" (some 40))) (result (row "bit(40)" none)) ∧
      ∃ table table',
        result (row "bit" (some 40)) = .ok (some table) ∧
          result (row "bit(40)" none) = .ok (some table') ∧
          (table.columns.map fun column => (column.portable, column.size)) =
            [(.smallInt, some 40)] ∧
          (table'.columns.map fun column => (column.portable, column.size)) =
            [(.bigInt, some 40)] := by
  intro flags settings row result
  have plain : '(' ∉ "bit".toList := by decide
  have moves : MovesWidth "bit".toList 40 none (row "bit" (some 40))
      (row "bit(40)" none) :=
    flags.movesWidth_row .v12 [] 0 "bit".toList 40 none
  exact ⟨plain, moves,
    width_beside_and_within plain moves [] []
      (StoredCatalog.server [settings] .v12) () [] .v12 "dba".toList
      "dba.Settings".toList,
    _, _, rfl, rfl, by decide +kernel, by decide +kernel⟩

/--
A bit with its width beside the type is loaded as a small integer with a
number as its default, and one with the width within the type as a truth
value.
-/
theorem active_beside_and_within :
    let loaded (typeName : String) (width : Option Int64) :=
      let accounts : StoredTable :=
        { owner := "dba".toList, name := "Accounts".toList
          primaryKey := []
          columns := [
            { name := "active".toList, typeName := typeName.toList, width
              default := some "1".toList }] }
      ((load .v12 "dba".toList "dba.Accounts".toList).outcome
        (StoredCatalog.server [accounts] .v12) () []).result
    ∃ table column table' column',
      loaded "bit" (some 1) = .ok (some table) ∧ table.columns = [column] ∧
        loaded "bit(1)" (some 1) = .ok (some table') ∧
        table'.columns = [column'] ∧
        (column.portable = .smallInt ∧ column.size = some 1 ∧
          column.default = some (.integer 1)) ∧
        (column'.portable = .boolean ∧ column'.size = some 1 ∧
          column'.default = some (.boolean true)) ∧
        ¬ column.inPrimaryKey ∧ column.portable ≠ column'.portable := by
  intro loaded
  refine ⟨_, _, _, _, rfl, rfl, rfl, rfl, ⟨?_, ?_, rfl⟩, ⟨?_, ?_, rfl⟩, ?_, ?_⟩
  all_goals decide +kernel

end Loader

end SqlAnywhere
