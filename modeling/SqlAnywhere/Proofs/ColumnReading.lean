import SqlAnywhere.Catalog.ColumnRow
import SqlAnywhere.Proofs.Traversal

/-!
# Reading columns

What a row of the catalog has to hold for a column to be read from it, said
field by field and apart from the order in which the fields are read; and what
then holds of the column that the row describes under a primary key.
-/

namespace SqlAnywhere

namespace ColumnRow

/-! ## Rows that are read -/

/-- A row of the catalog from which a column row is read. -/
structure IsReadFrom (column : ColumnRow) (row : Row) : Prop where
  name : Row.trimmedText row "column_name".toList = .ok column.name
  typeName : Row.trimmedText row "base_type".toList = .ok column.typeName
  width : Row.optionalInteger row "width".toList = .ok column.width
  scale : Row.optionalInteger row "scale".toList = .ok column.scale
  nullable : Row.flag row "nulls".toList = .ok column.nullable
  unique : Row.flag row "unique".toList = .ok column.unique
  rawDefault :
    (Row.optionalText row "default".toList).map
        (·.filter (!isNullWord ·)) = .ok column.rawDefault
  sequence :
    (Row.optionalText row "sequence_name".toList).map
        (·.bind nonBlank?) = .ok column.sequence
  comment : Row.optionalText row "remarks".toList = .ok column.comment

/-- Reading succeeds exactly on the rows from which a column row is read. -/
theorem ofRow_eq_ok_iff {row : Row} {column : ColumnRow} :
    ofRow row = .ok column ↔ column.IsReadFrom row := by
  constructor
  · intro read
    simp only [ofRow, Traversal.bind_eq_ok_iff, pure, Except.pure,
      Except.ok.injEq] at read
    obtain ⟨raw, rawDefault, name, named, typeName, typed, width, wide, scale,
      scaled, nullable, null, unique, only, text, sequence, comment, remark,
      rfl⟩ := read
    exact {
      name := named
      typeName := typed
      width := wide
      scale := scaled
      nullable := null
      unique := only
      rawDefault := by rw [rawDefault]; rfl
      sequence := by rw [sequence]; rfl
      comment := remark }
  · intro read
    obtain ⟨raw, rawDefault, filtered⟩ :=
      Traversal.map_eq_ok_iff.1 read.rawDefault
    obtain ⟨text, sequence, trimmed⟩ := Traversal.map_eq_ok_iff.1 read.sequence
    rw [ofRow, rawDefault, read.name, read.typeName, read.width, read.scale,
      read.nullable, read.unique, sequence, read.comment]
    simp only [bind, Except.bind, pure, Except.pure, filtered, trimmed]

variable {row : ColumnRow} {primaryKey : List Text}

/-- A name that is not blank is not empty. -/
theorem ne_nil_of_nonBlank? {text name : Text}
    (found : nonBlank? text = some name) : name ≠ [] := by
  rw [nonBlank?] at found
  split at found
  · cases found
  · next some =>
      cases found
      simpa using some

/-- The sequence of a column that is read has a name. -/
theorem IsReadFrom.sequence_ne_nil {source : Row}
    (read : row.IsReadFrom source) {name : Text}
    (named : row.sequence = some name) : name ≠ [] := by
  obtain ⟨text, -, trimmed⟩ := Traversal.map_eq_ok_iff.1 read.sequence
  rw [named] at trimmed
  obtain ⟨raw, -, found⟩ := Option.bind_eq_some_iff.1 trimmed
  exact ne_nil_of_nonBlank? found

/-! ## Columns that rows describe -/

/-- A column that is generated or in the key has no default. -/
theorem default?_eq_none (portable : PortableType)
    (apart : row.isGenerated ∨ row.isInKey primaryKey) :
    row.default? primaryKey portable = none := by
  rw [default?, Option.bind_eq_none_iff]
  intro raw _
  rw [if_pos (by simpa using apart)]

end ColumnRow

/-- A column that a row of the catalog describes under a primary key. -/
def Column.IsDescribedBy (primaryKey : List Text) (row : Row)
    (column : Column) : Prop :=
  ∃ read : ColumnRow,
    read.IsReadFrom row ∧ read.toColumn primaryKey = column

/--
What holds of a column that a row describes under a primary key: it belongs
to the key by its name, in any ASCII case; it has no default where it is
generated or in the key; and it is generated where it has a sequence, which
has a name.
-/
structure Column.IsSound (primaryKey : List Text) (column : Column) :
    Prop where
  inPrimaryKey :
    column.inPrimaryKey ↔
      ∃ key ∈ primaryKey, Text.sameLetters key column.name
  default : column.generated ∨ column.inPrimaryKey → column.default = none
  sequence :
    ∀ name, column.sequence = some name → column.generated ∧ name ≠ []

namespace Column.IsDescribedBy

variable {primaryKey : List Text} {row : Row} {column : Column}

/-- A column has the name that the row holds. -/
theorem trimmedText_eq (described : column.IsDescribedBy primaryKey row) :
    Row.trimmedText row "column_name".toList = .ok column.name := by
  obtain ⟨read, isRead, rfl⟩ := described
  exact isRead.name

/-- Columns that rows describe are sound. -/
theorem isSound (described : column.IsDescribedBy primaryKey row) :
    column.IsSound primaryKey := by
  obtain ⟨read, isRead, rfl⟩ := described
  constructor
  · exact List.any_eq_true
  · exact read.default?_eq_none _
  · intro name named
    have generated : read.isGenerated := by
      rw [ColumnRow.isGenerated, show read.sequence = some name from named]
      rfl
    exact ⟨generated, isRead.sequence_ne_nil named⟩

end Column.IsDescribedBy

end SqlAnywhere
