import SqlAnywhere.Proofs.LoadedTable

/-!
# Tables across families

The families of servers show one stored table in different layouts.  What is
read from the rows of each family is said in terms of what is stored, so that
the loads of all families meet in one description.  Only the sequences behind
columns make a difference, as only the latest family shows them.
-/

namespace SqlAnywhere

/-! ## With and without sequences -/

/--
A column with a sequence behind it, which generates its values in place of
any default.
-/
def Column.withSequence (name : Text) (column : Column) : Column :=
  { column with generated := true, default := none, sequence := some name }

/-- A column without a sequence, and the same one where sequences are shown. -/
inductive Column.SameButSequence : Column → Column → Prop where
  | unbacked {column : Column} (plain : column.sequence = none) :
      SameButSequence column column
  | backed {column : Column} (plain : column.sequence = none) (name : Text) :
      SameButSequence column (column.withSequence name)

/--
Two tables that differ at most in the sequences behind columns and in what
generates keys.
-/
structure Table.SameButSequences (older latest : Table) : Prop where
  name : latest.name = older.name
  primaryKey : latest.primaryKey = older.primaryKey
  columns :
    List.Forall₂ Column.SameButSequence older.columns latest.columns
  foreignKeys : latest.foreignKeys = older.foreignKeys

/-- A sequence leaves the name of a column. -/
theorem Column.SameButSequence.name_eq {older latest : Column}
    (same : older.SameButSequence latest) : latest.name = older.name := by
  cases same <;> rfl

namespace Table

/-- Columns that are the same but for sequences take the same places. -/
theorem putColumn_sameButSequence
    {older latest : List Column} {column column' : Column}
    (same : List.Forall₂ Column.SameButSequence older latest)
    (put : column.SameButSequence column') :
    List.Forall₂ Column.SameButSequence
      (putColumn older column) (putColumn latest column') := by
  induction same with
  | nil => exact .cons put .nil
  | cons first others ih =>
      rw [putColumn, putColumn, first.name_eq, put.name_eq]
      split
      · exact .cons put others
      · exact .cons first ih

/-- Tables of columns that are the same but for sequences are so too. -/
theorem ofColumns_sameButSequences
    (name : TableName) (primaryKey : List Text) {older latest : List Column}
    (foreignKeys : List ForeignKey)
    (same : List.Forall₂ Column.SameButSequence older latest) :
    (ofColumns name primaryKey older foreignKeys).SameButSequences
      (ofColumns name primaryKey latest foreignKeys) where
  name := rfl
  primaryKey := rfl
  columns := by
    have places :
        Relator.LiftFun (List.Forall₂ Column.SameButSequence)
          (Relator.LiftFun Column.SameButSequence
            (List.Forall₂ Column.SameButSequence))
          putColumn putColumn :=
      fun _ _ placed _ _ put => putColumn_sameButSequence placed put
    exact List.rel_foldl places .nil same
  foreignKeys := rfl

end Table

/-! ## Stored tables as they are read -/

namespace StoredColumn

/-- The name of the sequence behind a column, unless it is blank. -/
def sequenceName? (column : StoredColumn) : Option Text :=
  column.sequence.bind ColumnRow.nonBlank?

/-- What is read from the row about a column in a family. -/
def read (family : ServerFamily) (column : StoredColumn) : ColumnRow :=
  { name := Text.trim column.name
    typeName := Text.trim column.typeName
    width := column.width
    scale := column.scale
    nullable := column.nullable
    unique := false
    rawDefault := column.default.filter (!ColumnRow.isNullWord ·)
    sequence := (column.shownSequence family).bind ColumnRow.nonBlank?
    comment := none }

/-- The letters for yes and no are read back. -/
theorem sameLetters_flag (flag : Bool) :
    Text.sameLetters (Text.trim (if flag then "Y" else "N").toList)
      "Y".toList = flag := by
  cases flag <;> decide +kernel

theorem read_isReadFrom_row
    (family : ServerFamily) (primaryKey : List Text) (place : Nat)
    (column : StoredColumn) :
    (column.read family).IsReadFrom (column.row family primaryKey place) where
  name := rfl
  typeName := rfl
  width := by
    rcases column with ⟨name, typeName, _ | width⟩ <;> rfl
  scale := by
    rcases column with ⟨name, typeName, width, _ | scale⟩ <;> rfl
  nullable := congrArg Except.ok (sameLetters_flag column.nullable)
  unique := congrArg Except.ok (sameLetters_flag false)
  rawDefault := by
    rcases column with ⟨name, typeName, width, scale, nullable, _ | raw⟩ <;>
      rfl
  sequence := by
    rw [read]
    cases shown : column.shownSequence family <;>
      simp only [row, shown] <;> rfl
  comment := rfl

variable (column : StoredColumn)

/--
Without a name of a sequence, the latest family shows what the others do.
-/
theorem read_latest_of_none (none : column.sequenceName? = none) :
    column.read .v12 = column.read .v11 := by
  have shown :
      (column.shownSequence .v12).bind ColumnRow.nonBlank? = .none := none
  rw [read, shown]
  rfl

/--
The name of a sequence is all that the latest family shows more than the
others.
-/
theorem read_latest_of_some {name : Text}
    (named : column.sequenceName? = some name) :
    column.read .v12 = { column.read .v11 with sequence := some name } := by
  have shown :
      (column.shownSequence .v12).bind ColumnRow.nonBlank? = some name := named
  rw [read, shown]
  rfl

/--
A column is described alike in the latest family and in the others, but for
its sequence.
-/
theorem toColumn_sameButSequence (primaryKey : List Text) :
    ((column.read .v11).toColumn primaryKey).SameButSequence
      ((column.read .v12).toColumn primaryKey) := by
  cases named : column.sequenceName? with
  | none =>
      rw [column.read_latest_of_none named]
      exact .unbacked rfl
  | some name =>
      have alike :
          (column.read .v12).toColumn primaryKey =
            ((column.read .v11).toColumn primaryKey).withSequence name := by
        -- The default falls away with the sequence, whatever is stored for it.
        have generated : (column.read .v12).isGenerated := by
          rw [column.read_latest_of_some named]
          rfl
        rw [ColumnRow.toColumn,
          ColumnRow.default?_eq_none _ (.inl generated), generated,
          column.read_latest_of_some named]
        rfl
      rw [alike]
      exact .backed rfl name

end StoredColumn

/-- The foreign keys of a table can be told apart and shown in lists. -/
structure StoredTable.HasSoundKeys (table : StoredTable) : Prop where
  different :
    (table.foreignKeys.map fun key => (key.number, key.referencedTable)).Nodup
  sound : ∀ key ∈ table.foreignKeys, key.IsWellFormed

namespace StoredTable

/-- The columns of the primary key as they are read. -/
def keyNames (table : StoredTable) : List Text :=
  table.primaryKey.map Text.trim

/-- The columns of a table as a family describes them. -/
def describedColumns (family : ServerFamily) (table : StoredTable) :
    List Column :=
  table.columns.map fun column => (column.read family).toColumn table.keyNames

/-- A table as a family describes it under a name. -/
def described (family : ServerFamily) (name : TableName)
    (table : StoredTable) : Table :=
  .ofColumns name table.keyNames (table.describedColumns family)
    (table.foreignKeys.map (·.toForeignKey))

variable (family : ServerFamily) (table : StoredTable)

theorem primaryKeyIn_rows :
    Loader.primaryKeyIn (.ok table.primaryKeyRows) = .ok table.keyNames := by
  apply Traversal.mapM_eq_ok_iff.2
  rw [primaryKeyRows, keyNames, List.forall₂_map_left_iff,
    List.forall₂_map_right_iff, List.forall₂_same]
  intro name _
  rfl

theorem columnsIn_rows :
    Loader.columnsIn table.keyNames (.ok (table.columnRows family)) =
      .ok (table.describedColumns family) := by
  apply Loader.columnsOfRows_eq_ok_iff.2
  rw [columnRows, describedColumns, List.forall₂_iff_get]
  refine ⟨by simp, ?_⟩
  intro place bound _
  rw [List.length_mapIdx] at bound
  refine ⟨table.columns[place].read family, ?_, by simp⟩
  simpa using StoredColumn.read_isReadFrom_row family table.primaryKey place _

/-- Both layouts of foreign keys are read as the keys. -/
theorem foreignKeysIn_rows (keys : table.HasSoundKeys) :
    Loader.foreignKeysIn family (.ok (table.foreignKeyRows family)) =
      .ok (table.foreignKeys.map (·.toForeignKey)) := by
  obtain ⟨different, sound⟩ := keys
  cases family with
  | v9 =>
      exact NumberedKey.ofRows_of_showsWhole different sound
        (NumberedKey.showsWhole_wholeRow _)
  | v11 | v12 =>
      exact NumberedKey.ofRows_of_showsPair different sound
        (NumberedKey.showsPair_pairRows _)

/-- The latest family describes a table as the others do, but for sequences. -/
theorem described_sameButSequences (name : TableName) :
    (table.described .v11 name).SameButSequences
      (table.described .v12 name) := by
  apply Table.ofColumns_sameButSequences
  rw [describedColumns, describedColumns, List.forall₂_map_left_iff,
    List.forall₂_map_right_iff, List.forall₂_same]
  intro column _
  exact column.toColumn_sameButSequence _

/-- Without sequences, all families describe a table alike. -/
theorem described_latest_of_none (name : TableName)
    (none : ∀ column ∈ table.columns, column.sequenceName? = none) :
    table.described .v12 name = table.described .v11 name := by
  have columns :
      table.describedColumns .v12 = table.describedColumns .v11 := by
    apply List.map_congr_left
    intro column member
    rw [column.read_latest_of_none (none column member)]
  rw [described, columns]
  rfl

/-- A column that is described stems from a stored one. -/
theorem exists_source {name : TableName} {column : Column}
    (member : column ∈ (table.described family name).columns) :
    ∃ source ∈ table.columns,
      (source.read family).toColumn table.keyNames = column := by
  rcases Table.mem_of_mem_foldl_putColumn member with nothing | listed
  · cases nothing
  · exact List.mem_map.1 listed

end StoredTable

/-! ## Loads from a stored catalog -/

namespace Loader

variable {Memory : Type} {catalog : StoredCatalog}
  (family : ServerFamily) (memory : Memory) (past : List Call)

/--
A table that is not stored, or is stored without columns, counts as one that
does not exist.
-/
theorem result_describe_of_absent {name : TableName}
    (absent :
      ∀ table, catalog.find? name.owner name.name = some table →
        table.columns = []) :
    ((describe family name).outcome
      (catalog.server family) memory past).result = .ok none := by
  rw [outcome_describe]
  cases found : catalog.find? name.owner name.name with
  | none =>
      simp only [StoredCatalog.server_primaryKeys,
        StoredCatalog.server_columns, found, Option.elim_none]
      rfl
  | some table =>
      have columns := table.columnsIn_rows family
      rw [StoredTable.describedColumns, absent table found] at columns
      simp only [StoredCatalog.server_primaryKeys,
        StoredCatalog.server_columns, found, Option.elim_some,
        table.primaryKeyIn_rows, columns, List.map_nil]

/--
A table that is stored with columns is loaded as the family describes it.
-/
theorem result_describe_of_found {name : TableName} {table : StoredTable}
    (found : catalog.find? name.owner name.name = some table)
    (listed : table.columns ≠ []) (keys : table.HasSoundKeys) :
    ((describe family name).outcome
      (catalog.server family) memory past).result =
        .ok (some (table.described family name)) := by
  rw [outcome_describe, StoredTable.described]
  simp only [StoredCatalog.server_primaryKeys, StoredCatalog.server_columns,
    StoredCatalog.server_foreignKeys, found, Option.elim_some,
    table.primaryKeyIn_rows, table.columnsIn_rows,
    table.foreignKeysIn_rows family keys]
  cases columns : table.describedColumns family with
  | nil => exact absurd (List.map_eq_nil_iff.1 columns) listed
  | cons first others => rfl

/-- The owners of a name are those that a stored catalog counts. -/
theorem ownersIn_server (name : Text) :
    ownersIn name (catalog.server family past (.ownerCount name)) =
      .ok (catalog.ownerCount name) := by
  rw [StoredCatalog.server_ownerCount]
  rfl

/--
A bare name with several owners in a stored catalog is refused with their
number.
-/
theorem result_load_of_ambiguous
    (defaultOwner : Text) {reference : Text}
    (bare : TableName.IsBare reference)
    (several :
      1 < catalog.ownerCount (TableName.resolve reference defaultOwner).name) :
    let name := (TableName.resolve reference defaultOwner).name
    ((load family defaultOwner reference).outcome
      (catalog.server family) memory past).result =
        .error (.ambiguousName name (catalog.ownerCount name)) := by
  intro name
  rw [outcome_load_of_isBare family defaultOwner bare]
  simp only [ownersIn_server, if_pos several, name]

/--
Any other load from a stored catalog describes the table that the reference
names.
-/
theorem result_load_of_unambiguous
    (defaultOwner : Text) {reference : Text}
    (single :
      TableName.IsBare reference →
        ¬ 1 < catalog.ownerCount
          (TableName.resolve reference defaultOwner).name)
    {result : Except CatalogError (Option Table)}
    (described : ∀ past,
      ((describe family (TableName.resolve reference defaultOwner)).outcome
        (catalog.server family) memory past).result = result) :
    ((load family defaultOwner reference).outcome
      (catalog.server family) memory past).result = result := by
  by_cases bare : TableName.IsBare reference
  · rw [outcome_load_of_isBare family defaultOwner bare]
    simp only [ownersIn_server, if_neg (single bare)]
    exact described _
  · rw [outcome_load_of_not_isBare family defaultOwner bare]
    exact described _

end Loader

/--
A stored catalog is loaded alike by the servers of all families.  Where
several owners have a bare name, every family refuses it; where the table is
not stored, or has no columns, no family gives one.  Any other table is
described by the older families in the same way, and by the latest in the
same way but for sequences: a column with one is generated and has no
default, and what generates the keys can differ.  The foreign keys are those
that are stored.
-/
theorem Loader.load_across_families
    {Memory : Type} (catalog : StoredCatalog)
    (sound : ∀ table ∈ catalog, table.HasSoundKeys)
    (memory : Memory) (past : List Call) (defaultOwner reference : Text) :
    let name := TableName.resolve reference defaultOwner
    let result (family : ServerFamily) :=
      ((load family defaultOwner reference).outcome
        (catalog.server family) memory past).result
    let ambiguous :=
      TableName.IsBare reference ∧ 1 < catalog.ownerCount name.name
    (ambiguous → ∀ family,
      result family =
        .error (.ambiguousName name.name (catalog.ownerCount name.name))) ∧
    (¬ ambiguous →
      (∀ table, catalog.find? name.owner name.name = some table →
        table.columns = []) →
      ∀ family, result family = .ok none) ∧
    (¬ ambiguous →
      ∀ table, catalog.find? name.owner name.name = some table →
        table.columns ≠ [] →
        ∃ older latest,
          result .v9 = .ok (some older) ∧
          result .v11 = .ok (some older) ∧
          result .v12 = .ok (some latest) ∧
          older.SameButSequences latest ∧
          (∀ column ∈ latest.columns, ∃ source ∈ table.columns,
            column.name = Text.trim source.name ∧
              column.sequence = source.sequenceName?) ∧
          ((∀ source ∈ table.columns, source.sequenceName? = none) →
            latest = older) ∧
          older.name = name ∧
          older.foreignKeys = table.foreignKeys.map (·.toForeignKey)) := by
  intro name result ambiguous
  refine ⟨?_, ?_, ?_⟩
  · rintro ⟨bare, several⟩ family
    exact result_load_of_ambiguous family memory past defaultOwner bare several
  · intro single absent family
    apply result_load_of_unambiguous family memory past defaultOwner
    · exact fun bare several => single ⟨bare, several⟩
    · exact fun past => result_describe_of_absent family memory past absent
  · intro single table found listed
    have keys : table.HasSoundKeys :=
      sound table (List.mem_of_find?_eq_some found)
    -- The loads of all families meet in what each reads from its own rows.
    have loaded (family : ServerFamily) :
        result family = .ok (some (table.described family name)) := by
      apply result_load_of_unambiguous family memory past defaultOwner
      · exact fun bare several => single ⟨bare, several⟩
      · exact fun past =>
          result_describe_of_found family memory past found listed keys
    refine ⟨table.described .v11 name, table.described .v12 name, loaded .v9,
      loaded .v11, loaded .v12, table.described_sameButSequences name, ?_,
      table.described_latest_of_none name, rfl, rfl⟩
    intro column member
    obtain ⟨source, stored, rfl⟩ := table.exists_source .v12 member
    exact ⟨source, stored, rfl, rfl⟩

/--
A table with a sequence and a foreign key of two columns, across families.
-/
theorem Loader.orders_across_families :
    let orders : StoredTable :=
      { owner := "dba".toList
        name := "Orders".toList
        primaryKey := ["id".toList]
        columns := [
          { name := "id".toList, typeName := "integer".toList
            sequence := some "order_ids".toList },
          { name := "customer".toList, typeName := "integer".toList
            default := some "0".toList },
          { name := "branch".toList, typeName := "varchar".toList
            width := some 8, nullable := true }]
        foreignKeys := [
          ⟨⟨"Customers".toList,
            [("customer".toList, "id".toList),
              ("branch".toList, "branch".toList)]⟩, 1⟩] }
    let result (family : ServerFamily) :=
      ((load family "dba".toList "Orders".toList).outcome
        (StoredCatalog.server [orders] family) () []).result
    ∃ older latest,
      result .v9 = .ok (some older) ∧ result .v11 = .ok (some older) ∧
        result .v12 = .ok (some latest) ∧ older.SameButSequences latest := by
  intro orders result
  have sound : ∀ table ∈ [orders], table.HasSoundKeys := by
    rw [List.forall_mem_singleton]
    exact ⟨by decide, by decide⟩
  obtain ⟨-, -, described⟩ :=
    load_across_families [orders] sound () [] "dba".toList "Orders".toList
  have single :
      ¬ (TableName.IsBare "Orders".toList ∧
        1 < StoredCatalog.ownerCount [orders] "Orders".toList) :=
    fun ambiguous => absurd ambiguous.2 (by decide +kernel)
  obtain ⟨older, latest, v9, v11, v12, same, -⟩ :=
    described single orders rfl nofun
  exact ⟨older, latest, v9, v11, v12, same⟩

end SqlAnywhere
