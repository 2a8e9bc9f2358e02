import Mathlib.Data.List.Forall2
import Mathlib.Tactic.MkIffOfInductiveProp
import SqlAnywhere.Proofs.KeyGrouping
import SqlAnywhere.Proofs.Traversal
import SqlAnywhere.Proofs.Trimming

/-!
# The two layouts of foreign keys

A foreign key is shown by one row with two lists of columns, or by one row for
each pair of columns.  This module says what rows show a key in either way,
apart from how rows are read.  Rows of both kinds read back as the keys that
they show, as both make the pairs of a key arrive in portions: a single one, or
one for each pair.
-/

namespace SqlAnywhere

/-! ## Lists of names -/

/-- A name with blanks around it. -/
def IsPadded (name padded : Text) : Prop :=
  ∃ before after,
    IsBlankText before ∧ IsBlankText after ∧ padded = before ++ name ++ after

/--
A text that lists names with commas between them and any blanks around each.
-/
def IsListing (names : List Text) (text : Text) : Prop :=
  ∃ parts,
    List.Forall₂ IsPadded names parts ∧ text = [','].intercalate parts

/-- A list of names with a comma and a space between them. -/
def listing (names : List Text) : Text :=
  ", ".toList.intercalate names

/--
A name that can be listed: it is not empty, holds no comma, and has no blanks
around it.
-/
@[mk_iff]
structure IsListable (name : Text) : Prop where
  trimmed : Text.trim name = name
  some : name ≠ []
  commaless : ',' ∉ name

instance (name : Text) : Decidable (IsListable name) :=
  decidable_of_iff _ (isListable_iff name).symm

namespace IsPadded

variable {name padded : Text}

/-- Padding brings no comma with it. -/
theorem commaless (padding : IsPadded name padded) (commaless : ',' ∉ name) :
    ',' ∉ padded := by
  have apart {blanks : Text} (blank : IsBlankText blanks) : ',' ∉ blanks :=
    fun member => absurd (blank ',' member) (by decide)
  obtain ⟨before, after, blank, blank', rfl⟩ := padding
  rw [List.append_assoc, List.mem_append, List.mem_append, not_or, not_or]
  exact ⟨apart blank, commaless, apart blank'⟩

/-- Padding is trimmed off. -/
theorem trim_eq (padding : IsPadded name padded) :
    Text.trim padded = Text.trim name := by
  obtain ⟨before, after, blank, blank', rfl⟩ := padding
  exact Text.trim_append_of_isBlankText blank name blank'

/--
Padded names that can be listed hold no commas, and are the names when they
are trimmed.
-/
theorem parts_of_forall₂
    {names parts : List Text} (padded : List.Forall₂ IsPadded names parts)
    (listable : ∀ name ∈ names, IsListable name) :
    (∀ part ∈ parts, ',' ∉ part) ∧ parts.map Text.trim = names := by
  induction padded with
  | nil => exact ⟨nofun, rfl⟩
  | cons padding _ ih =>
      rw [List.forall_mem_cons] at listable
      obtain ⟨commaless, trimmed⟩ := ih listable.2
      constructor
      · rw [List.forall_mem_cons]
        exact ⟨padding.commaless listable.1.commaless, commaless⟩
      · rw [List.map_cons, padding.trim_eq, listable.1.trimmed, trimmed]

end IsPadded

/--
The space after a comma can be taken for the start of the name that follows.
-/
theorem listing_cons (first : Text) (others : List Text) :
    listing (first :: others) =
      [','].intercalate (first :: others.map (' ' :: ·)) := by
  have start (rest : List Text) (name : Text) :
      [','].intercalate ((' ' :: name) :: rest) =
        ' ' :: [','].intercalate (name :: rest) := by
    cases rest <;> simp [List.intercalate_cons_cons]
  induction others generalizing first with
  | nil => simp [listing]
  | cons second others ih =>
      have later := ih second
      unfold listing at later ⊢
      rw [List.intercalate_cons_cons, later, List.map_cons,
        List.intercalate_cons_cons, start]
      simp

theorem isListing_listing (names : List Text) :
    IsListing names (listing names) := by
  cases names with
  | nil => exact ⟨[], .nil, rfl⟩
  | cons first others =>
      refine ⟨first :: others.map (' ' :: ·), .cons ?_ ?_,
        listing_cons first others⟩
      · exact ⟨[], [], nofun, nofun, (List.append_nil first).symm⟩
      · rw [List.forall₂_map_right_iff, List.forall₂_same]
        intro name _
        exact ⟨[' '], [], by decide, nofun, (List.append_nil _).symm⟩

/-- Listed names are read back. -/
theorem IsListing.listedNames_eq
    {names : List Text} {text : Text} (listing : IsListing names text)
    (some : names ≠ []) (listable : ∀ name ∈ names, IsListable name) :
    ForeignKey.listedNames text = names := by
  obtain ⟨parts, padded, rfl⟩ := listing
  obtain ⟨commaless, trimmed⟩ := IsPadded.parts_of_forall₂ padded listable
  have some' : parts ≠ [] := by
    rintro rfl
    exact some trimmed.symm
  rw [ForeignKey.listedNames, List.splitOn_intercalate ',' commaless some',
    trimmed, List.filter_eq_self]
  intro name member
  simpa using (listable name member).some

/-! ## Rows that show a key -/

/-- A foreign key with its number among those of a table. -/
structure NumberedKey extends ForeignKey where
  number : Int64

namespace NumberedKey

/-- The identity under which the rows of a key are grouped. -/
def identity (key : NumberedKey) : ForeignKey.Identity :=
  ⟨some (Numeral.ofInt64 key.number), key.referencedTable⟩

/--
A key of at least one pair of columns and no pair twice, of which all names
can be listed.
-/
@[mk_iff]
structure IsWellFormed (key : NumberedKey) : Prop where
  table : IsListable key.referencedTable
  some : key.columns ≠ []
  distinct : key.columns.Nodup
  names : ∀ pair ∈ key.columns, IsListable pair.1 ∧ IsListable pair.2

instance (key : NumberedKey) : Decidable key.IsWellFormed :=
  decidable_of_iff _ (isWellFormed_iff key).symm

/--
A row that shows a key by its number and its table, with texts for its
columns.
-/
structure Shows (row : Row) (key : NumberedKey)
    (localText referencedText : Text) : Prop where
  number :
    Row.get? row "foreign_key_id".toList = some (.integer key.number)
  table :
    Row.get? row "UQ_TABLE_NAME".toList = some (.text key.referencedTable)
  localColumns :
    Row.get? row "FK_COLUMN_NAME".toList = some (.text localText)
  referencedColumns :
    Row.get? row "UQ_COLUMN_NAME".toList = some (.text referencedText)

/-- A row that shows a key with lists of its columns. -/
def ShowsWhole (key : NumberedKey) (row : Row) : Prop :=
  ∃ localList referencedList,
    IsListing (key.columns.map Prod.fst) localList ∧
      IsListing (key.columns.map Prod.snd) referencedList ∧
      key.Shows row localList referencedList

/-- A row that shows one pair of columns of a key. -/
def ShowsPair (part : NumberedKey × ColumnPair) (row : Row) : Prop :=
  part.1.Shows row part.2.1 part.2.2

/-- The pairs of columns of a list of keys, each with its key. -/
def parts (keys : List NumberedKey) : List (NumberedKey × ColumnPair) :=
  keys.flatMap fun key => key.columns.map (key, ·)

/-- A row with just the columns that show a key. -/
def row (key : NumberedKey) (localText referencedText : Text) : Row :=
  [("foreign_key_id".toList, .integer key.number),
    ("FK_COLUMN_NAME".toList, .text localText),
    ("UQ_TABLE_NAME".toList, .text key.referencedTable),
    ("UQ_COLUMN_NAME".toList, .text referencedText)]

theorem shows_row (key : NumberedKey) (localText referencedText : Text) :
    key.Shows (key.row localText referencedText)
      localText referencedText :=
  ⟨rfl, rfl, rfl, rfl⟩

/-- The row of a key with its columns in two lists. -/
def wholeRow (key : NumberedKey) : Row :=
  key.row (listing (key.columns.map Prod.fst))
    (listing (key.columns.map Prod.snd))

/-- The rows of keys, one for each pair of columns. -/
def pairRows (keys : List NumberedKey) : List Row :=
  (parts keys).map fun part => part.1.row part.2.1 part.2.2

theorem showsWhole_wholeRow (keys : List NumberedKey) :
    List.Forall₂ ShowsWhole keys (keys.map wholeRow) := by
  rw [List.forall₂_map_right_iff, List.forall₂_same]
  intro key _
  exact ⟨_, _, isListing_listing _, isListing_listing _, key.shows_row _ _⟩

theorem showsPair_pairRows (keys : List NumberedKey) :
    List.Forall₂ ShowsPair (parts keys) (pairRows keys) := by
  rw [pairRows, List.forall₂_map_right_iff, List.forall₂_same]
  intro part _
  exact part.1.shows_row _ _

/-! ## Reading the rows -/

/-- Keys that differ in their numbers or tables differ in their identities. -/
theorem nodup_identities
    {keys : List NumberedKey}
    (different :
      (keys.map fun key => (key.number, key.referencedTable)).Nodup) :
    (keys.map identity).Nodup := by
  have told :
      Function.Injective fun label : Int64 × Text =>
        (⟨some (Numeral.ofInt64 label.1), label.2⟩ :
          ForeignKey.Identity) := by
    rintro ⟨number, table⟩ ⟨number', table'⟩ equal
    simp only [ForeignKey.Identity.mk.injEq, Option.some.injEq] at equal
    obtain ⟨numerals, rfl⟩ := equal
    have read := congrArg Numeral.readInt64? numerals
    rw [Numeral.readInt64?_ofInt64, Numeral.readInt64?_ofInt64] at read
    rw [Option.some.inj read]
  have labelled := different.map told
  rwa [List.map_map] at labelled

section Reading

variable {key : NumberedKey} {row : Row} {localText referencedText : Text}

/-- A row that shows a key adds the pairs of columns that it holds to it. -/
theorem Shows.readRow_eq
    (shows : key.Shows row localText referencedText)
    (trimmed : Text.trim key.referencedTable = key.referencedTable)
    {grain : RowGrain} {pairs : List ColumnPair}
    (read : ForeignKey.columnPairs grain row = .ok pairs) :
    ForeignKey.readRow grain row = .ok (some (key.identity, pairs)) := by
  rw [ForeignKey.readRow, Row.optionalText, Row.require, shows.table,
    shows.number, read, identity]
  simp [bind, Except.bind, Except.map, pure, Except.pure, Value.toText?,
    trimmed]

theorem Shows.text_eq
    (shows : key.Shows row localText referencedText) :
    Row.text row "FK_COLUMN_NAME".toList = .ok localText ∧
      Row.text row "UQ_COLUMN_NAME".toList = .ok referencedText := by
  rw [Row.text, Row.text, Row.optionalText, Row.optionalText, Row.require,
    Row.require, shows.localColumns, shows.referencedColumns]
  exact ⟨rfl, rfl⟩

/-- A row with lists adds all pairs of its key. -/
theorem readRow_of_showsWhole
    (sound : key.IsWellFormed) (shows : key.ShowsWhole row) :
    ForeignKey.readRow .wholeKey row =
      .ok (some (key.identity, key.columns)) := by
  obtain ⟨localList, referencedList, listing, listing', shows⟩ := shows
  apply shows.readRow_eq sound.table.trimmed
  have locals :
      ForeignKey.listedNames localList = key.columns.map Prod.fst := by
    apply listing.listedNames_eq
    · simpa using sound.some
    · intro name member
      obtain ⟨pair, paired, rfl⟩ := List.mem_map.1 member
      exact (sound.names pair paired).1
  have referenced :
      ForeignKey.listedNames referencedList = key.columns.map Prod.snd := by
    apply listing'.listedNames_eq
    · simpa using sound.some
    · intro name member
      obtain ⟨pair, paired, rfl⟩ := List.mem_map.1 member
      exact (sound.names pair paired).2
  rw [ForeignKey.columnPairs, shows.text_eq.1, shows.text_eq.2]
  simp only [bind, Except.bind, locals, referenced, List.length_map, if_true]
  rw [← List.zip_of_prod rfl rfl]
  rfl

/-- A row with one pair of columns adds that pair to its key. -/
theorem readRow_of_showsPair
    (sound : key.IsWellFormed) {pair : ColumnPair}
    (member : pair ∈ key.columns) (shows : ShowsPair (key, pair) row) :
    ForeignKey.readRow .keyColumn row =
      .ok (some (key.identity, [pair])) := by
  apply Shows.readRow_eq shows sound.table.trimmed
  have names := sound.names pair member
  rw [ForeignKey.columnPairs, Shows.text_eq shows |>.1,
    Shows.text_eq shows |>.2]
  simp [bind, Except.bind, pure, Except.pure, names.1.trimmed,
    names.2.trimmed]

end Reading

/-! ## Reading back -/

section ReadingBack

variable {keys : List NumberedKey} {rows : List Row}
  (different :
    (keys.map fun key => (key.number, key.referencedTable)).Nodup)
  (sound : ∀ key ∈ keys, key.IsWellFormed)

include different sound

/-- Keys of which the pairs arrive in portions come out of the grouping. -/
theorem group_arrivals_eq
    (cut : List ColumnPair → List (List ColumnPair))
    (whole : ∀ columns, (cut columns).flatten = columns) :
    ForeignKey.group (ForeignKey.arrivals
        (keys.map fun key => (key.identity, cut key.columns))) =
      keys.map (·.toForeignKey) := by
  rw [ForeignKey.group_arrivals]
  · simp [whole, identity]
  · rw [List.map_map]
    exact nodup_identities different
  · rw [List.forall_mem_map]
    intro key member none
    have nothing := whole key.columns
    rw [show cut key.columns = [] from none] at nothing
    exact (sound key member).some nothing.symm
  · rw [List.forall_mem_map]
    intro key member
    simp only [whole]
    exact (sound key member).distinct

/-- Rows with which the keys arrive in portions are read as the keys. -/
theorem ofRows_of_arrivals
    {grain : RowGrain} (cut : List ColumnPair → List (List ColumnPair))
    (whole : ∀ columns, (cut columns).flatten = columns)
    (read :
      List.Forall₂
        (fun row arrival =>
          ForeignKey.readRow grain row = .ok (some arrival))
        rows
        (ForeignKey.arrivals
          (keys.map fun key => (key.identity, cut key.columns)))) :
    ForeignKey.ofRows grain rows = .ok (keys.map (·.toForeignKey)) := by
  have additions :=
    Traversal.mapM_eq_ok_iff.2 (List.forall₂_map_right_iff.2 read)
  rw [ForeignKey.ofRows, additions,
    ← group_arrivals_eq different sound cut whole]
  simp only [bind, Except.bind, List.filterMap_map, Function.comp_def, id,
    List.filterMap_some]
  rfl

/-- Rows that show the keys with lists of columns are read as the keys. -/
theorem ofRows_of_showsWhole
    (shown : List.Forall₂ ShowsWhole keys rows) :
    ForeignKey.ofRows .wholeKey rows =
      .ok (keys.map (·.toForeignKey)) := by
  have portions :
      ForeignKey.arrivals
          (keys.map fun key => (key.identity, [key.columns])) =
        keys.map fun key => (key.identity, key.columns) := by
    simp [ForeignKey.arrivals, List.flatMap_map, ← List.map_eq_flatMap]
  apply ofRows_of_arrivals different sound fun columns => [columns]
  · simp
  · rw [portions, List.forall₂_map_right_iff]
    have read := (List.forall₂_and_left _ _).2 ⟨sound, shown⟩
    refine (read.imp ?_).flip
    rintro key row ⟨sound, shows⟩
    exact readRow_of_showsWhole sound shows

/-- Rows that show the keys pair by pair are read as the keys. -/
theorem ofRows_of_showsPair
    (shown : List.Forall₂ ShowsPair (parts keys) rows) :
    ForeignKey.ofRows .keyColumn rows =
      .ok (keys.map (·.toForeignKey)) := by
  have portions :
      ForeignKey.arrivals
          (keys.map fun key => (key.identity, key.columns.map ([·]))) =
        (parts keys).map fun part => (part.1.identity, [part.2]) := by
    simp [ForeignKey.arrivals, parts, List.flatMap_map, List.map_flatMap,
      Function.comp_def]
  have members :
      ∀ part ∈ parts keys,
        part.1.IsWellFormed ∧ part.2 ∈ part.1.columns := by
    intro part member
    obtain ⟨key, listed, paired⟩ := List.mem_flatMap.1 member
    obtain ⟨pair, among, rfl⟩ := List.mem_map.1 paired
    exact ⟨sound key listed, among⟩
  apply ofRows_of_arrivals different sound fun columns => columns.map ([·])
  · intro columns
    rw [← List.flatMap_def, List.flatMap_singleton']
  · rw [portions, List.forall₂_map_right_iff]
    have read := (List.forall₂_and_left _ _).2 ⟨members, shown⟩
    refine (read.imp ?_).flip
    rintro ⟨key, pair⟩ row ⟨⟨sound, member⟩, shows⟩
    exact readRow_of_showsPair sound member shows

end ReadingBack

end NumberedKey

/--
Keys that differ in number or table read back from both layouts of their
rows, in order and with their pairs in order: from one row for each key, with
lists of columns and any blanks around the commas, and from one row for each
pair.  There are such rows for all keys.
-/
theorem NumberedKey.read_back_from_both_layouts
    (keys : List NumberedKey)
    (different :
      (keys.map fun key => (key.number, key.referencedTable)).Nodup)
    (sound : ∀ key ∈ keys, key.IsWellFormed) :
    (∀ rows, List.Forall₂ ShowsWhole keys rows →
      ForeignKey.ofRows .wholeKey rows =
        .ok (keys.map (·.toForeignKey))) ∧
    (∀ rows, List.Forall₂ ShowsPair (parts keys) rows →
      ForeignKey.ofRows .keyColumn rows =
        .ok (keys.map (·.toForeignKey))) ∧
    List.Forall₂ ShowsWhole keys (keys.map wholeRow) ∧
    List.Forall₂ ShowsPair (parts keys) (pairRows keys) :=
  ⟨fun _ shown => ofRows_of_showsWhole different sound shown,
    fun _ shown => ofRows_of_showsPair different sound shown,
    showsWhole_wholeRow keys, showsPair_pairRows keys⟩

/--
Two keys of one number read back, of lists with uneven blanks and of single
columns.
-/
theorem NumberedKey.keys_of_one_number_read_back :
    let customers : NumberedKey :=
      ⟨⟨"Customers".toList, [("customer".toList, "id".toList)]⟩, 7⟩
    let lines : NumberedKey :=
      ⟨⟨"Lines".toList,
        [("order".toList, "order".toList), ("line".toList, "no".toList)]⟩, 7⟩
    let listed : List Row :=
      [customers.row "customer".toList " id".toList,
        lines.row "order\t,  line ".toList "order, no".toList]
    let keys := [customers.toForeignKey, lines.toForeignKey]
    ForeignKey.ofRows .wholeKey listed = .ok keys ∧
      ForeignKey.ofRows .keyColumn (pairRows [customers, lines]) =
        .ok keys := by
  intro customers lines listed keys
  obtain ⟨whole, pairs, -, shown⟩ :=
    read_back_from_both_layouts [customers, lines] (by decide) (by decide)
  refine ⟨whole listed (.cons ?_ (.cons ?_ .nil)), pairs _ shown⟩
  · refine ⟨_, _, ⟨["customer".toList], .cons ?_ .nil, rfl⟩,
      ⟨[" id".toList], .cons ?_ .nil, rfl⟩, customers.shows_row _ _⟩
    · exact ⟨[], [], by decide, by decide, rfl⟩
    · exact ⟨[' '], [], by decide, by decide, rfl⟩
  · refine ⟨_, _,
      ⟨["order\t".toList, "  line ".toList], .cons ?_ (.cons ?_ .nil), rfl⟩,
      isListing_listing _, lines.shows_row _ _⟩
    · exact ⟨[], ['\t'], by decide, by decide, rfl⟩
    · exact ⟨[' ', ' '], [' '], by decide, by decide, rfl⟩

end SqlAnywhere
