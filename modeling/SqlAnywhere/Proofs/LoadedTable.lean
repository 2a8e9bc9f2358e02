import Mathlib.Data.List.Nodup
import SqlAnywhere.Proofs.ColumnReading
import SqlAnywhere.Proofs.LoaderCourse
import SqlAnywhere.Proofs.StoredCatalog

/-!
# Loaded tables

A load reads the columns of a table from rows and puts them into their places.
The main statement is what holds of every table that a load gives: of each of
its columns, of the columns together, and of what generates its keys.
-/

namespace SqlAnywhere

/-! ## Columns in their places -/

namespace Table

variable {columns : List Column} {column : Column}

/-- A column of a new name takes the last place. -/
theorem putColumn_of_notMem (new : column.name ∉ columns.map Column.name) :
    putColumn columns column = columns ++ [column] := by
  induction columns with
  | nil => rfl
  | cons first rest ih =>
      rw [List.map_cons, List.mem_cons, not_or] at new
      rw [putColumn, if_neg (Ne.symm new.1), ih new.2, List.cons_append]

/-- Columns of different names take their places in order. -/
theorem foldl_putColumn_of_nodup {others : List Column}
    (distinct : ((columns ++ others).map Column.name).Nodup) :
    others.foldl putColumn columns = columns ++ others := by
  -- On the columns still to be put, those in place being any.
  induction others generalizing columns with
  | nil => rw [List.foldl_nil, List.append_nil]
  | cons column others ih =>
      have new : column.name ∉ columns.map Column.name := by
        intro member
        rw [List.map_append] at distinct
        exact (List.disjoint_of_nodup_append distinct) member
          List.mem_cons_self
      have shape : columns ++ column :: others =
          columns ++ [column] ++ others := by
        simp
      rw [shape] at distinct ⊢
      rw [List.foldl_cons, putColumn_of_notMem new, ih distinct]

/-- A column that is put is listed afterwards. -/
theorem mem_putColumn_self (columns : List Column) (column : Column) :
    column ∈ putColumn columns column := by
  induction columns with
  | nil => exact List.mem_cons_self
  | cons first rest ih =>
      rw [putColumn]
      split
      · exact List.mem_cons_self
      · exact List.mem_cons_of_mem _ ih

/--
What is listed after a column is put was listed before, or is that column.
-/
theorem eq_or_mem_of_mem_putColumn {other : Column}
    (member : other ∈ putColumn columns column) :
    other = column ∨ other ∈ columns := by
  induction columns with
  | nil => exact .inl (List.mem_singleton.1 member)
  | cons first rest ih =>
      rw [putColumn] at member
      split at member
      · rcases List.mem_cons.1 member with rfl | later
        · exact .inl rfl
        · exact .inr (List.mem_cons_of_mem _ later)
      · rcases List.mem_cons.1 member with rfl | later
        · exact .inr List.mem_cons_self
        · exact (ih later).imp_right (List.mem_cons_of_mem _)

/--
What is listed after columns are put was listed before, or is one of them.
-/
theorem mem_of_mem_foldl_putColumn {others : List Column}
    (member : column ∈ others.foldl putColumn columns) :
    column ∈ columns ∨ column ∈ others := by
  induction others generalizing columns with
  | nil => exact .inl member
  | cons first others ih =>
      rcases ih member with listed | later
      · rcases eq_or_mem_of_mem_putColumn listed with rfl | before
        · exact .inr List.mem_cons_self
        · exact .inl before
      · exact .inr (List.mem_cons_of_mem _ later)

/-- What a table of columns lists is one of them. -/
theorem mem_of_mem_ofColumns {name : TableName} {primaryKey : List Text}
    {foreignKeys : List ForeignKey}
    (member :
      column ∈ (ofColumns name primaryKey columns foreignKeys).columns) :
    column ∈ columns := by
  rcases mem_of_mem_foldl_putColumn member with nothing | listed
  · cases nothing
  · exact listed

/-- Columns that are put are not none. -/
theorem foldl_putColumn_ne_nil {others : List Column} (some : others ≠ []) :
    others.foldl putColumn columns ≠ [] := by
  -- The column put last is listed, whatever was put before it.
  rw [← List.dropLast_append_getLast some, List.foldl_append,
    List.foldl_cons, List.foldl_nil]
  exact List.ne_nil_of_mem (mem_putColumn_self _ _)

/-- A column of columns with different names is found by its name. -/
theorem columnNamed?_of_mem
    (distinct : (columns.map Column.name).Nodup) (member : column ∈ columns) :
    columnNamed? columns column.name = some column := by
  obtain ⟨before, after, rfl⟩ := List.append_of_mem member
  rw [List.map_append] at distinct
  refine List.find?_eq_some_iff_append.2
    ⟨decide_eq_true rfl, before, after, rfl, ?_⟩
  intro earlier listed
  have other : earlier.name ≠ column.name := by
    intro same
    refine (List.disjoint_of_nodup_append distinct)
      (List.mem_map_of_mem listed) ?_
    rw [same]
    exact List.mem_cons_self
  simpa using other

end Table

/-! ## Key generators -/

/--
A column that gives the rows of its table their keys: it is generated, and in
the key.
-/
def Column.GivesKeys (column : Column) : Prop :=
  column.inPrimaryKey ∧ column.generated

instance (column : Column) : Decidable column.GivesKeys :=
  inferInstanceAs (Decidable (column.inPrimaryKey ∧ column.generated))

/-- The name of a key generator; the counter of a column has the empty one. -/
def KeyGenerator.name : KeyGenerator → Text
  | .identity => []
  | .sequence name => name

/-- The name of what generates the keys of a table, if anything does. -/
def Table.generatorName? (table : Table) : Option Text :=
  table.generator.map KeyGenerator.name

namespace Table

variable {columns : List Column} {column : Column}

theorem generatorOf?_eq_none_iff :
    generatorOf? column = none ↔ ¬ column.GivesKeys := by
  simp [generatorOf?, Column.GivesKeys]

theorem generatorOf?_of_givesKeys (gives : column.GivesKeys) :
    generatorOf? column =
      some (column.sequence.elim .identity .sequence) := by
  rw [generatorOf?, gives.1, gives.2]
  rfl

/-- Keys are generated where a column gives them. -/
theorem generatorOfColumns?_eq_none_iff :
    generatorOfColumns? columns = none ↔
      ∀ column ∈ columns, ¬ column.GivesKeys := by
  rw [generatorOfColumns?, List.getLast?_eq_none_iff,
    List.filterMap_eq_nil_iff]
  simp only [generatorOf?_eq_none_iff]

/--
Keys are generated by what the last column that gives them brings with it.
-/
theorem generatorOfColumns?_of_last
    {before after : List Column} (gives : column.GivesKeys)
    (last : ∀ later ∈ after, ¬ later.GivesKeys) :
    generatorOfColumns? (before ++ column :: after) =
      some (column.sequence.elim .identity .sequence) := by
  have none : after.filterMap generatorOf? = [] := by
    rw [List.filterMap_eq_nil_iff]
    intro later member
    exact generatorOf?_eq_none_iff.2 (last later member)
  rw [generatorOfColumns?, List.filterMap_append, List.filterMap_cons,
    generatorOf?_of_givesKeys gives]
  simp only [none]
  rw [List.getLast?_append]
  rfl

/-! ## Tables that rows describe -/

/-- A table of the columns that rows describe under its primary key. -/
def IsDescribedBy (rows : List Row) (table : Table) : Prop :=
  ∃ (columns : List Column) (foreignKeys : List ForeignKey),
    List.Forall₂
        (fun row column => column.IsDescribedBy table.primaryKey row)
        rows columns ∧
      table = ofColumns table.name table.primaryKey columns foreignKeys

variable {table : Table} {rows : List Row}

/-- The columns of a table that rows describe are sound. -/
theorem IsDescribedBy.isSound
    (described : table.IsDescribedBy rows) (member : column ∈ table.columns) :
    column.IsSound table.primaryKey := by
  obtain ⟨columns, foreignKeys, each, shape⟩ := described
  have sound :
      List.Forall₂
        (fun column (_ : Row) => column.IsSound table.primaryKey ∧ True)
        columns rows :=
    (each.imp fun _ _ column => ⟨column.isSound, trivial⟩).flip
  rw [shape] at member
  exact ((List.forall₂_and_left _ _).1 sound).1 column
    (mem_of_mem_ofColumns member)

/-- Rows describe a table with columns where there are rows. -/
theorem IsDescribedBy.columns_ne_nil
    (described : table.IsDescribedBy rows) (some : rows ≠ []) :
    table.columns ≠ [] := by
  obtain ⟨columns, foreignKeys, each, shape⟩ := described
  rw [shape]
  apply foldl_putColumn_ne_nil
  rintro rfl
  exact some (List.forall₂_nil_right_iff.1 each)

/-- A table has a key generator where one of its columns gives keys. -/
theorem IsDescribedBy.exists_generator
    (described : table.IsDescribedBy rows) (member : column ∈ table.columns)
    (gives : column.GivesKeys) :
    ∃ generator, table.generator = some generator := by
  obtain ⟨columns, foreignKeys, -, shape⟩ := described
  rw [shape] at member
  rw [← Option.ne_none_iff_exists', shape]
  intro none
  exact generatorOfColumns?_eq_none_iff.1 none column
    (mem_of_mem_ofColumns member) gives

/-- Rows of different columns describe columns with different names. -/
theorem nodup_names_of_forall₂ {primaryKey : List Text}
    (each :
      List.Forall₂ (fun row column => column.IsDescribedBy primaryKey row)
        rows columns)
    (distinct :
      (rows.map fun row => Row.trimmedText row "column_name".toList).Nodup) :
    (columns.map Column.name).Nodup := by
  have names :
      rows.map (fun row => Row.trimmedText row "column_name".toList) =
        columns.map fun column => .ok column.name := by
    rw [← List.forall₂_eq_eq_eq, List.forall₂_map_left_iff,
      List.forall₂_map_right_iff]
    exact each.imp fun _ _ column => column.trimmedText_eq
  rw [names] at distinct
  exact List.Nodup.of_map Except.ok (by rwa [List.map_map])

/--
The columns of a table are those that its rows describe, and all of them
where no two rows name one column.
-/
theorem IsDescribedBy.exists_columns (described : table.IsDescribedBy rows) :
    ∃ columns,
      List.Forall₂
          (fun row column => column.IsDescribedBy table.primaryKey row)
          rows columns ∧
        table.columns ⊆ columns ∧
        ((rows.map fun row =>
            Row.trimmedText row "column_name".toList).Nodup →
          table.columns = columns) := by
  obtain ⟨columns, foreignKeys, each, shape⟩ := described
  refine ⟨columns, each, ?_, ?_⟩
  · intro column member
    rw [shape] at member
    exact mem_of_mem_ofColumns member
  · intro distinct
    rw [shape]
    exact foldl_putColumn_of_nodup (nodup_names_of_forall₂ each distinct)

/--
Rows of different columns describe a table with one column for each row, in
order.
-/
theorem IsDescribedBy.of_nodup
    (described : table.IsDescribedBy rows)
    (distinct :
      (rows.map fun row => Row.trimmedText row "column_name".toList).Nodup) :
    List.Forall₂
        (fun row column => column.IsDescribedBy table.primaryKey row)
        rows table.columns ∧
      (table.columns.map Column.name).Nodup ∧
      table.generator = generatorOfColumns? table.columns := by
  obtain ⟨columns, foreignKeys, each, shape⟩ := described
  have different := nodup_names_of_forall₂ each distinct
  have placed : table.columns = columns := by
    rw [shape]
    exact foldl_putColumn_of_nodup different
  rw [placed]
  refine ⟨each, different, ?_⟩
  rw [shape]
  rfl

end Table

namespace Loader

/-- The columns that rows give are those that the rows describe. -/
theorem columnsOfRows_eq_ok_iff
    {primaryKey : List Text} {rows : List Row} {columns : List Column} :
    columnsOfRows primaryKey rows = .ok columns ↔
      List.Forall₂ (fun row column => column.IsDescribedBy primaryKey row)
        rows columns := by
  simp only [columnsOfRows, Traversal.mapM_eq_ok_iff,
    Traversal.map_eq_ok_iff, ColumnRow.ofRow_eq_ok_iff, Column.IsDescribedBy]

/--
A course that ends with a table ends with one of the name that is loaded,
which the rows about the columns describe.
-/
theorem Inquiry.Course.isDescribedBy
    {inquiry : Inquiry} {calls : List Call}
    {result : Except CatalogError (Option Table)} {table : Table}
    (course : inquiry.Course calls result)
    (loaded : result = .ok (some table)) :
    table.name = inquiry.name ∧
      ∃ rows,
        inquiry.columns = .ok rows ∧ rows ≠ [] ∧ table.IsDescribedBy rows := by
  cases course with
  | uncounted | ambiguous | keyless | absent | unlinked => cases loaded
  | @loaded names first others keys _ _ columns _ =>
      cases loaded
      obtain ⟨rows, arrived, read⟩ := Traversal.bind_eq_ok_iff.1 columns
      rw [columnsOfRows_eq_ok_iff] at read
      refine ⟨rfl, rows, arrived, ?_, first :: others, keys, read, rfl⟩
      rintro rfl
      cases read

end Loader

/-! ## What a load gives -/

/--
What holds of every table that a load gives.  It has columns, and each of
them is sound.  If no two rows name one column, the table has one column for
each row, in order and found by its name; and what generates its keys is
named after the sequence of the last column that gives keys, or has the empty
name exactly where that column has no sequence.
-/
theorem Loader.well_formed_of_load
    {Memory : Type} (server : Server) (memory : Memory) (past : List Call)
    (family : ServerFamily) (defaultOwner reference : Text) {table : Table}
    (loaded :
      ((load family defaultOwner reference).outcome
        server memory past).result = .ok (some table)) :
    ∃ rows,
      (inquiryOf server past family defaultOwner reference).columns =
          .ok rows ∧
      table.columns ≠ [] ∧
      (∀ column ∈ table.columns, column.IsSound table.primaryKey) ∧
      ((rows.map fun row =>
          Row.trimmedText row "column_name".toList).Nodup →
        List.Forall₂
            (fun row column => column.IsDescribedBy table.primaryKey row)
            rows table.columns ∧
        (∀ column ∈ table.columns,
          Table.columnNamed? table.columns column.name = some column) ∧
        (table.generatorName? = none ↔
          ∀ column ∈ table.columns, ¬ column.GivesKeys) ∧
        ∀ before column after,
          table.columns = before ++ column :: after →
          column.GivesKeys →
          (∀ later ∈ after, ¬ later.GivesKeys) →
          table.generatorName? = some (column.sequence.getD []) ∧
            (table.generatorName? = some [] ↔ column.sequence = none)) := by
  obtain ⟨-, rows, arrived, some, described⟩ :=
    (course_of_load server memory past family defaultOwner
      reference).isDescribedBy loaded
  refine ⟨rows, arrived, described.columns_ne_nil some,
    fun column member => described.isSound member, ?_⟩
  intro distinct
  obtain ⟨each, different, generator⟩ := described.of_nodup distinct
  refine ⟨each, ?_, ?_, ?_⟩
  · intro column member
    exact Table.columnNamed?_of_mem different member
  · rw [Table.generatorName?, Option.map_eq_none_iff, generator]
    exact Table.generatorOfColumns?_eq_none_iff
  · intro before column after shape gives last
    have sound : column.IsSound table.primaryKey := by
      apply described.isSound
      rw [shape]
      simp
    have named :
        table.generatorName? = .some (column.sequence.getD []) := by
      rw [Table.generatorName?, generator, shape,
        Table.generatorOfColumns?_of_last gives last]
      cases column.sequence <;> rfl
    refine ⟨named, ?_⟩
    rw [named, Option.some.injEq]
    cases sequence : column.sequence with
    | none => exact ⟨fun _ => rfl, fun _ => rfl⟩
    | some name =>
        have filled : name ≠ [] := (sound.sequence name sequence).2
        exact ⟨fun empty => absurd empty filled, nofun⟩

/--
The second column of a key brings a sequence with it, which names the key
generator although the first column and one outside the key are generated
too.
-/
theorem Loader.well_formed_lines :
    let lines : StoredTable :=
      { owner := "dba".toList
        name := "OrderLines".toList
        primaryKey := ["Order".toList, "line".toList]
        columns := [
          { name := "order".toList, typeName := "integer".toList
            default := some "autoincrement".toList },
          { name := "Line".toList, typeName := "integer".toList
            sequence := some " dba.line_numbers ".toList },
          { name := "serial".toList, typeName := "integer".toList
            default := some "autoincrement".toList }] }
    let loading :=
      (load .v12 "dba".toList "dba.OrderLines".toList).outcome
        (StoredCatalog.server [lines] .v12) () []
    ∃ table,
      loading.result = .ok (some table) ∧ table.columns.length = 3 ∧
        table.generatorName? = some "dba.line_numbers".toList := by
  intro lines loading
  refine ⟨_, rfl, ?_⟩
  obtain ⟨rows, arrived, -, -, ordered⟩ :=
    well_formed_of_load (StoredCatalog.server [lines] .v12) () [] .v12
      "dba".toList "dba.OrderLines".toList rfl
  obtain rfl : lines.columnRows .v12 = rows :=
    Except.ok.inj (Eq.trans rfl arrived)
  have distinct :
      (["order".toList, "Line".toList, "serial".toList].map
        (Except.ok : Text → Except QueryError Text)).Nodup :=
    List.Nodup.map (fun _ _ => Except.ok.inj) (by decide)
  obtain ⟨each, -, -, last⟩ := ordered distinct
  refine ⟨each.length_eq.symm, ?_⟩
  exact (last [_] _ [_] rfl (by decide +kernel) (by decide +kernel)).1

end SqlAnywhere
