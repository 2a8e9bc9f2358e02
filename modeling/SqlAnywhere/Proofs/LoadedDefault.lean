import SqlAnywhere.Proofs.LiteralDefault
import SqlAnywhere.Proofs.LoadedTable
import SqlAnywhere.Proofs.Words

/-!
# Literals as defaults of loaded columns

A loader looks at a default several times before it is read as a value: whether
it is the word for none, whether it lets the server generate keys, and whether
it stands for the current time.  Each of these looks at words, and a literal
begins with a quote.  Its text is therefore read back whatever it says, and a
loaded column has it as its default.
-/

namespace SqlAnywhere

/-! ## What a literal is not taken for -/

namespace ColumnDefault

open Text

/--
The plain name of a text that a quote begins, after blanks, begins with the
quote.
-/
theorem exists_plainName_eq {before : Text} (blank : IsBlankText before)
    (rest : Text) :
    ∃ others, plainName (before ++ '\'' :: rest) = '\'' :: others := by
  have lowered : lower (before ++ '\'' :: rest) =
      before ++ '\'' :: lower rest := by
    rw [lower, List.map_append, ← lower, lower_of_isBlankText blank]
    rfl
  have solid : ¬ isBlank '\'' := by decide
  obtain ⟨word, others, found⟩ := exists_words_cons solid (lower rest)
  have other : '\'' :: word ≠ unsignedWord :=
    fun same => absurd (List.head_eq_of_cons_eq same) (by decide)
  have plain : plainWords (before ++ '\'' :: rest) =
      ('\'' :: word) :: others := by
    rw [plainWords, lowered, words_append_of_isBlankText blank, found,
      dropUnsigned, if_neg other]
  rw [plainName, plain]
  cases others with
  | nil => exact ⟨word, List.intercalate_singleton⟩
  | cons next others =>
      rw [List.intercalate_cons_cons]
      exact ⟨_, rfl⟩

section Literals

variable {raw value : Text} (whole : trim raw = literal value)
include whole

theorem exists_plainName_of_literal :
    ∃ others, plainName raw = '\'' :: others := by
  obtain ⟨before, after, blank, -, shape⟩ := exists_blanks_around_trim raw
  rw [shape, whole, List.append_assoc]
  exact exists_plainName_eq blank _

/-- A literal is not the word for no default. -/
theorem not_isNullWord_of_literal : ¬ ColumnRow.isNullWord raw := by
  rw [ColumnRow.isNullWord, whole]
  intro word
  refine not_saysNone_enclosed (doubled '\'' value) (.inr ?_)
  exact sameLetters_trans word (by decide)

/-- A literal lets the server generate no keys. -/
theorem not_generatesKeys_of_literal : ¬ generatesKeys raw := by
  obtain ⟨others, plain⟩ := exists_plainName_of_literal whole
  rw [generatesKeys, plain]
  simp

/-- A literal does not stand for the current time. -/
theorem not_isCurrentTime_of_literal : ¬ isCurrentTime raw := by
  obtain ⟨others, plain⟩ := exists_plainName_of_literal whole
  rw [isCurrentTime, plain]
  simp [currentTimes]

/-- The literal of a text is read as the text. -/
theorem ofRaw_of_literal {portable : PortableType}
    (texts : portable.HoldsTexts) :
    ofRaw portable raw = some (.text value) :=
  (ofRaw_eq_iff texts).2 (isReadAs_text_iff.2 (.inr (.inl whole)))

end Literals

/-- The blanks around a literal are trimmed off, and none of those in it. -/
theorem trim_literal (value : Text) {before after : Text}
    (blank : IsBlankText before) (blank' : IsBlankText after) :
    trim (before ++ literal value ++ after) = literal value := by
  rw [trim_append_of_isBlankText blank _ blank']
  exact trim_of_ends (by decide) (by decide) _

end ColumnDefault

/-! ## Columns whose default is a literal -/

/--
A column whose default is the literal of a text.  The default is described as
it is reported, and only a sequence makes the column a generated one; a
column of a type that holds texts has the text as its default, unless it is
generated or in the key.
-/
structure Column.HasLiteral (raw value : Text) (column : Column) : Prop where
  reported : column.rawDefault = some raw
  generated : column.generated ↔ column.sequence ≠ none
  default :
    column.portable.HoldsTexts → ¬ column.inPrimaryKey → ¬ column.generated →
      column.default = some (.text value)

/-- A row with a literal as its default describes a column that has it. -/
theorem Column.IsDescribedBy.hasLiteral
    {primaryKey : List Text} {row : Row} {column : Column} {raw value : Text}
    (described : column.IsDescribedBy primaryKey row)
    (given : Row.optionalText row "default".toList = .ok (some raw))
    (whole : Text.trim raw = ColumnDefault.literal value) :
    column.HasLiteral raw value := by
  obtain ⟨read, isRead, rfl⟩ := described
  have reported : read.rawDefault = some raw := by
    have filtered := isRead.rawDefault
    rw [given] at filtered
    rw [← Except.ok.inj filtered]
    simp [ColumnDefault.not_isNullWord_of_literal whole]
  refine ⟨reported, ?_, ?_⟩
  · change read.isGenerated ↔ read.sequence ≠ none
    rw [ColumnRow.isGenerated, reported]
    simp [ColumnDefault.not_generatesKeys_of_literal whole,
      Option.isSome_iff_ne_none]
  · intro texts outside single
    change read.default? primaryKey _ = _
    have apart : ¬ (read.isGenerated || read.isInKey primaryKey) := by
      rw [Bool.or_eq_true, not_or]
      exact ⟨single, outside⟩
    rw [ColumnRow.default?, reported, Option.bind_some, if_neg apart, if_neg]
    · exact ColumnDefault.ofRaw_of_literal whole texts
    · simp [ColumnDefault.not_isCurrentTime_of_literal whole]

/--
The literal of a text between blanks gives back the text, for every type that
holds texts.  So it does in a loaded table: a row with this literal as its
default describes a column that has it, and the table lists columns that the
rows describe, all of them where no two rows name one.
-/
theorem literal_read_back
    {portable : PortableType} (texts : portable.HoldsTexts) (value : Text)
    {before after : Text} (blank : IsBlankText before)
    (blank' : IsBlankText after) :
    let raw := before ++ ColumnDefault.literal value ++ after
    ColumnDefault.ofRaw portable raw = some (.text value) ∧
    ∀ {Memory : Type} (server : Server) (memory : Memory) (past : List Call)
        (family : ServerFamily) (defaultOwner reference : Text)
        (table : Table),
      ((Loader.load family defaultOwner reference).outcome
        server memory past).result = .ok (some table) →
      ∃ rows columns,
        (Loader.inquiryOf server past family defaultOwner reference).columns =
            .ok rows ∧
          table.columns ⊆ columns ∧
          ((rows.map fun row =>
              Row.trimmedText row "column_name".toList).Nodup →
            table.columns = columns) ∧
          List.Forall₂
            (fun row column =>
              Row.trimmedText row "column_name".toList = .ok column.name ∧
              (Row.optionalText row "default".toList = .ok (some raw) →
                column.HasLiteral raw value))
            rows columns := by
  intro raw
  have whole : Text.trim raw = ColumnDefault.literal value :=
    ColumnDefault.trim_literal value blank blank'
  refine ⟨ColumnDefault.ofRaw_of_literal whole texts, ?_⟩
  intro Memory server memory past family defaultOwner reference table loaded
  obtain ⟨-, rows, arrived, -, described⟩ :=
    (Loader.course_of_load server memory past family defaultOwner
      reference).isDescribedBy loaded
  obtain ⟨columns, each, listed, all⟩ := described.exists_columns
  refine ⟨rows, columns, arrived, listed, all, each.imp ?_⟩
  intro row column describes
  exact ⟨describes.trimmedText_eq, fun given => describes.hasLiteral given whole⟩

/--
The quotes and blanks at the ends of a text are read back, and words in it
that would mean something as an expression mean nothing.
-/
theorem remarks_read_back :
    let notes : StoredTable :=
      { owner := "dba".toList
        name := "Notes".toList
        primaryKey := []
        columns := [
          { name := "remark".toList, typeName := "timestamp".toList
            default := some "\t' ''now()''' ".toList }] }
    let loading :=
      (Loader.load .v12 "dba".toList "dba.Notes".toList).outcome
        (StoredCatalog.server [notes] .v12) () []
    PortableType.timestamp.HoldsTexts ∧
      ColumnDefault.ofRaw .timestamp "\t' ''now()''' ".toList =
        some (.text " 'now()'".toList) ∧
      ∃ table column,
        loading.result = .ok (some table) ∧ table.columns = [column] ∧
          column.default = some (.text " 'now()'".toList) := by
  intro notes loading
  have texts : PortableType.timestamp.HoldsTexts :=
    ⟨by decide, by decide, by decide⟩
  have tab : IsBlankText "\t".toList := by decide
  have space : IsBlankText " ".toList := by decide
  obtain ⟨read, loads⟩ :=
    literal_read_back texts " 'now()'".toList tab space
  obtain ⟨rows, columns, arrived, -, all, each⟩ :=
    loads (StoredCatalog.server [notes] .v12) () [] .v12 "dba".toList
      "dba.Notes".toList _ rfl
  obtain rfl : notes.columnRows .v12 = rows :=
    Except.ok.inj (Eq.trans rfl arrived)
  have one := all (List.nodup_singleton _)
  refine ⟨texts, read, _, _, rfl, rfl, ?_⟩
  rw [← one] at each
  cases each with
  | cons described =>
      have has := described.2 rfl
      exact has.default texts (by decide +kernel) (by decide +kernel)

end SqlAnywhere
