import SqlAnywhere.Catalog.ForeignKey
import SqlAnywhere.Proofs.Traversal

/-!
# Rows about foreign keys

What a row about foreign keys is read for, said by the columns that it holds:
whether it refers to a table, to which key it belongs, which pairs of columns
it holds, and what is wrong with it.  A row that refers to no table is looked
at no further, so that nothing else in it can be wrong.
-/

namespace SqlAnywhere

/-! ## Texts in the columns of a row -/

namespace Row

/-- Whether a row has a text in a column. -/
def HasText (row : Row) (column text : Text) : Prop :=
  ∃ value, get? row column = some value ∧ value.toText? = some text

/--
Why a row has no text in a column: there is no such column, or it is null.
-/
inductive LacksText (row : Row) (column : Text) : RowFault → Prop where
  | missing (absent : get? row column = none) :
      LacksText row column (.missingColumn column)
  | null {value : Value} (found : get? row column = some value)
      (isNull : value.isNull) :
      LacksText row column (.nullColumn column)

variable {row : Row} {column text : Text} {error : QueryError}

/-- The text of a column is the one that the row has there. -/
theorem text_eq_ok_iff :
    Row.text row column = .ok text ↔ HasText row column text := by
  rw [Row.text, optionalText, require, HasText]
  cases get? row column with
  | none => simp [bind, Except.bind, Except.map]
  | some value =>
      cases written : value.toText? <;>
        simp [bind, Except.bind, Except.map, written]

theorem lacksText_of_none {fault : RowFault}
    (absent : get? row column = none) :
    LacksText row column fault ↔ fault = .missingColumn column := by
  constructor
  · rintro (_ | ⟨found, -⟩)
    · rfl
    · rw [absent] at found
      cases found
  · rintro rfl
    exact .missing absent

theorem lacksText_of_some {value : Value} {fault : RowFault}
    (found : get? row column = some value) :
    LacksText row column fault ↔
      value.isNull ∧ fault = .nullColumn column := by
  constructor
  · rintro (absent | ⟨found', isNull⟩)
    · rw [found] at absent
      cases absent
    · rw [found] at found'
      cases found'
      exact ⟨isNull, rfl⟩
  · rintro ⟨isNull, rfl⟩
    exact .null found isNull

/-- A column has no text for what is wrong with it. -/
theorem text_eq_error_iff :
    Row.text row column = .error error ↔
      ∃ fault, LacksText row column fault ∧ error = .malformedRow fault := by
  rw [Row.text, optionalText, require]
  cases found : get? row column with
  | none =>
      simp only [lacksText_of_none found, exists_eq_left]
      exact ⟨fun failed => (Except.error.inj failed).symm, fun same => same ▸ rfl⟩
  | some value =>
      simp only [lacksText_of_some found, ← value.toText?_eq_none_iff]
      cases written : value.toText? with
      | none => simp [bind, Except.bind, Except.map, written, eq_comm]
      | some text => simp [bind, Except.bind, Except.map, written]

/--
A row has a text in a column exactly where nothing is wrong with the column.
-/
theorem exists_hasText_iff :
    (∃ text, HasText row column text) ↔
      ¬ ∃ fault, LacksText row column fault := by
  simp only [← text_eq_ok_iff]
  cases read : Row.text row column with
  | ok text =>
      simp only [Except.ok.injEq, exists_eq', true_iff, not_exists]
      intro fault lacks
      have failed := text_eq_error_iff.2 ⟨fault, lacks, rfl⟩
      rw [read] at failed
      cases failed
  | error error =>
      obtain ⟨fault, lacks, -⟩ := text_eq_error_iff.1 read
      simp only [reduceCtorEq, exists_false, false_iff, not_not]
      exact ⟨fault, lacks⟩

end Row

namespace ForeignKey

/-! ## What a row is read for -/

/-- Whether a row refers to a table. -/
def Refers (row : Row) : Prop :=
  ∃ table, Row.HasText row "UQ_TABLE_NAME".toList table

/--
The key that a row belongs to, if it refers to a table: the text of its
number, if it has one, and the name of the table without blanks around it.
-/
def identity? (row : Row) : Option Identity :=
  ((Row.get? row "UQ_TABLE_NAME".toList).bind Value.toText?).map fun table =>
    ⟨(Row.get? row "foreign_key_id".toList).bind Value.toText?,
      Text.trim table⟩

/-- The pairs of columns that a row is read to hold. -/
def heldPairs (grain : RowGrain) (row : Row) : List ColumnPair :=
  (columnPairs grain row).toOption.getD []

/--
The pairs of columns that two texts are read as: one pair, or the names of
two lists of equal length.
-/
inductive Pairs (localText referencedText : Text) :
    RowGrain → List ColumnPair → Prop where
  | single :
      Pairs localText referencedText .keyColumn
        [(Text.trim localText, Text.trim referencedText)]
  | lists
      (equal :
        (listedNames localText).length =
          (listedNames referencedText).length) :
      Pairs localText referencedText .wholeKey
        ((listedNames localText).zip (listedNames referencedText))

/--
What is wrong with a row: what comes first of a missing table, a lack of
local columns, a lack of referenced ones, and lists of which one has more
names than the other.
-/
inductive IsMalformed (grain : RowGrain) (row : Row) : RowFault → Prop where
  | table (absent : Row.get? row "UQ_TABLE_NAME".toList = none) :
      IsMalformed grain row (.missingColumn "UQ_TABLE_NAME".toList)
  | localColumns {fault : RowFault} (refers : Refers row)
      (lacks : Row.LacksText row "FK_COLUMN_NAME".toList fault) :
      IsMalformed grain row fault
  | referencedColumns {localText : Text} {fault : RowFault}
      (refers : Refers row)
      (written : Row.HasText row "FK_COLUMN_NAME".toList localText)
      (lacks : Row.LacksText row "UQ_COLUMN_NAME".toList fault) :
      IsMalformed grain row fault
  | unequal {localText referencedText : Text} (refers : Refers row)
      (written : Row.HasText row "FK_COLUMN_NAME".toList localText)
      (written' : Row.HasText row "UQ_COLUMN_NAME".toList referencedText)
      (lists : grain = .wholeKey)
      (differ :
        (listedNames localText).length ≠
          (listedNames referencedText).length) :
      IsMalformed grain row (.unequalLists localText referencedText)

variable {grain : RowGrain} {row : Row}

/-- The pairs of columns of a row are read from its texts. -/
theorem columnPairs_eq_ok_iff {pairs : List ColumnPair} :
    columnPairs grain row = .ok pairs ↔
      ∃ localText referencedText,
        Row.HasText row "FK_COLUMN_NAME".toList localText ∧
          Row.HasText row "UQ_COLUMN_NAME".toList referencedText ∧
          Pairs localText referencedText grain pairs := by
  simp only [columnPairs, Traversal.bind_eq_ok_iff, Row.text_eq_ok_iff]
  constructor
  · rintro ⟨localText, written, referencedText, written', read⟩
    refine ⟨localText, referencedText, written, written', ?_⟩
    cases grain with
    | keyColumn =>
        cases read
        exact .single
    | wholeKey =>
        simp only at read
        split at read
        · next equal =>
            cases read
            exact .lists equal
        · cases read
  · rintro ⟨localText, referencedText, written, written', single | equal⟩
    · exact ⟨localText, written, referencedText, written', rfl⟩
    · refine ⟨localText, written, referencedText, written', ?_⟩
      simp only [if_pos equal]
      rfl

/--
The pairs of columns of a row that refers to a table are not read for what is
wrong with it.
-/
theorem columnPairs_eq_error_iff (refers : Refers row) {error : QueryError} :
    columnPairs grain row = .error error ↔
      ∃ fault, IsMalformed grain row fault ∧ error = .malformedRow fault := by
  simp only [columnPairs, Traversal.bind_eq_error_iff, Row.text_eq_ok_iff,
    Row.text_eq_error_iff]
  constructor
  · rintro (⟨fault, lacks, rfl⟩ |
      ⟨localText, written, ⟨fault, lacks, rfl⟩ |
        ⟨referencedText, written', read⟩⟩)
    · exact ⟨fault, .localColumns refers lacks, rfl⟩
    · exact ⟨fault, .referencedColumns refers written lacks, rfl⟩
    · cases grain with
      | keyColumn => cases read
      | wholeKey =>
          simp only at read
          split at read
          · cases read
          · next differ =>
              cases read
              exact ⟨_, .unequal refers written written' rfl differ, rfl⟩
  · rintro ⟨fault, malformed, rfl⟩
    cases malformed with
    | table absent =>
        obtain ⟨table, value, found, -⟩ := refers
        rw [found] at absent
        cases absent
    | localColumns _ lacks => exact .inl ⟨_, lacks, rfl⟩
    | referencedColumns _ written lacks =>
        exact .inr ⟨_, written, .inl ⟨_, lacks, rfl⟩⟩
    | unequal _ written written' lists differ =>
        subst lists
        refine .inr ⟨_, written, .inr ⟨_, written', ?_⟩⟩
        simp only [if_neg differ]
        rfl

/-! ## Reading a row -/

/-- A row without a column for the table that it refers to is not read. -/
theorem readRow_of_missing
    (absent : Row.get? row "UQ_TABLE_NAME".toList = none) :
    readRow grain row =
      .error (.malformedRow (.missingColumn "UQ_TABLE_NAME".toList)) := by
  rw [readRow, Row.optionalText, Row.require, absent]
  rfl

/-- A row that refers to no table adds nothing. -/
theorem readRow_of_null {value : Value}
    (found : Row.get? row "UQ_TABLE_NAME".toList = some value)
    (isNull : value.toText? = none) :
    readRow grain row = .ok none ∧ identity? row = none := by
  constructor
  · rw [readRow, Row.optionalText, Row.require, found]
    simp only [bind, Except.bind, Except.map, isNull, pure, Except.pure]
  · rw [identity?, found, Option.bind_some, isNull, Option.map_none]

/--
A row that refers to a table adds the pairs that it holds to the key that it
belongs to.
-/
theorem readRow_of_refers (refers : Refers row) :
    ∃ identity, identity? row = some identity ∧
      readRow grain row =
        (columnPairs grain row).map fun pairs => some (identity, pairs) := by
  obtain ⟨table, value, found, written⟩ := refers
  rw [readRow, Row.optionalText, Row.require, identity?, found]
  simp only [bind, Except.bind, Except.map, written, Option.bind]
  exact ⟨_, rfl, rfl⟩

/--
A row has no column for the table that it refers to, or refers to none, or
refers to one.
-/
theorem missing_or_null_or_refers (row : Row) :
    Row.get? row "UQ_TABLE_NAME".toList = none ∨
      (∃ value, Row.get? row "UQ_TABLE_NAME".toList = some value ∧
        value.toText? = none) ∨
      Refers row := by
  cases found : Row.get? row "UQ_TABLE_NAME".toList with
  | none => exact .inl rfl
  | some value =>
      cases written : value.toText? with
      | none => exact .inr (.inl ⟨value, rfl, written⟩)
      | some table => exact .inr (.inr ⟨table, value, found, written⟩)

/--
A row that is read adds the pairs it holds to the key that it belongs to, if
there is one.
-/
theorem eq_of_readRow_eq_ok {addition : Option (Identity × List ColumnPair)}
    (read : readRow grain row = .ok addition) :
    addition = (identity? row).map (·, heldPairs grain row) := by
  rcases missing_or_null_or_refers row with
    absent | ⟨value, found, isNull⟩ | refers
  · rw [readRow_of_missing absent] at read
    cases read
  · obtain ⟨skipped, none⟩ := @readRow_of_null grain row value found isNull
    rw [skipped] at read
    cases read
    rw [none]
    rfl
  · obtain ⟨identity, known, reading⟩ := @readRow_of_refers grain row refers
    rw [reading, Traversal.map_eq_ok_iff] at read
    obtain ⟨pairs, held, rfl⟩ := read
    rw [known, heldPairs, held]
    rfl

/--
Something is wrong with a row that has no column for a table, or with one
that refers to a table.
-/
theorem IsMalformed.missing_or_refers {fault : RowFault}
    (malformed : IsMalformed grain row fault) :
    (Row.get? row "UQ_TABLE_NAME".toList = none ∧
        fault = .missingColumn "UQ_TABLE_NAME".toList) ∨
      Refers row := by
  cases malformed with
  | table absent => exact .inl ⟨absent, rfl⟩
  | localColumns refers | referencedColumns refers | unequal refers =>
      exact .inr refers

/-- A row is not read for what is wrong with it. -/
theorem readRow_eq_error_iff {error : QueryError} :
    readRow grain row = .error error ↔
      ∃ fault, IsMalformed grain row fault ∧ error = .malformedRow fault := by
  rcases missing_or_null_or_refers row with
    absent | ⟨value, found, isNull⟩ | refers
  · rw [readRow_of_missing absent]
    constructor
    · rintro ⟨⟩
      exact ⟨_, .table absent, rfl⟩
    · rintro ⟨fault, malformed, rfl⟩
      rcases malformed.missing_or_refers with ⟨-, rfl⟩ | ⟨_, _, found, -⟩
      · rfl
      · rw [absent] at found
        cases found
  · rw [(readRow_of_null found isNull).1]
    constructor
    · rintro ⟨⟩
    · rintro ⟨fault, malformed, -⟩
      rcases malformed.missing_or_refers with
        ⟨absent, -⟩ | ⟨table, _, found', written⟩
      · rw [found] at absent
        cases absent
      · rw [found] at found'
        cases found'
        rw [isNull] at written
        cases written
  · obtain ⟨identity, -, reading⟩ := @readRow_of_refers grain row refers
    rw [reading, ← columnPairs_eq_error_iff refers]
    cases columnPairs grain row <;> simp [Except.map]

end ForeignKey

end SqlAnywhere
