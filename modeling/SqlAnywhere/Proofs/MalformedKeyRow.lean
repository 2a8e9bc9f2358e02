import SqlAnywhere.Proofs.FailedStatement
import SqlAnywhere.Proofs.KeysByIdentity
import SqlAnywhere.Proofs.Trimming

/-!
# Rows of which no foreign key can be made

When rows about foreign keys cannot be resolved, and as what that fails.  A
row that names no table is at fault, and so is one that refers to a table and
lacks the columns of one side or has more of them on one side than on the
other.  The first such row is the failure, whatever stands around it: there
are either all keys of the rows or none.  A load that meets the failure names
the table in it and remembers nothing about the table.
-/

namespace SqlAnywhere

variable {Cache : Type} [TableCache Cache]

/-! ## Rows at fault -/

/--
Whether a row has no value in a column: there is no such column, or it is
null.
-/
def Row.Lacks (row : Row) (column : Text) : Prop :=
  ∀ value, get? row column = some value → value.isNull

/-- A row lacks a column where it has no text there. -/
theorem Row.lacks_iff {row : Row} {column : Text} :
    Row.Lacks row column ↔ ∃ fault, LacksText row column fault := by
  constructor
  · intro lacks
    cases found : get? row column with
    | none => exact ⟨_, .missing found⟩
    | some value => exact ⟨_, .null found (lacks value found)⟩
  · rintro ⟨fault, absent | ⟨found, isNull⟩⟩ value found'
    · rw [absent] at found'
      cases found'
    · rw [found] at found'
      cases found'
      exact isNull

namespace ForeignKey

/--
The number of names in a list with commas between them: of what is between
the commas, blanks alone are no name.
-/
def nameCount (list : Text) : Nat :=
  (list.splitOn ',').countP fun name => ¬ IsBlankText name

/-- As many names are read as are listed. -/
theorem length_listedNames (list : Text) :
    (listedNames list).length = nameCount list := by
  rw [listedNames, nameCount, List.filter_map, List.length_map,
    ← List.countP_eq_length_filter]
  apply List.countP_congr
  intro name _
  simp [Text.trim_eq_nil_iff]

/--
Whether no key can be made of a row: it does not say which table it refers
to, or it refers to one and lacks the columns of one side or, where those are
lists, does not have as many on both.
-/
def Unusable (grain : RowGrain) (row : Row) : Prop :=
  Row.get? row "UQ_TABLE_NAME".toList = none ∨
    ¬ Row.Lacks row "UQ_TABLE_NAME".toList ∧
      (Row.Lacks row "FK_COLUMN_NAME".toList ∨
        Row.Lacks row "UQ_COLUMN_NAME".toList ∨
        grain = .wholeKey ∧ ∃ localText referencedText,
          Row.HasText row "FK_COLUMN_NAME".toList localText ∧
            Row.HasText row "UQ_COLUMN_NAME".toList referencedText ∧
            nameCount localText ≠ nameCount referencedText)

variable {grain : RowGrain} {row : Row} {rows : List Row}

/-- A row refers to a table where it does not lack one. -/
theorem refers_iff : Refers row ↔ ¬ Row.Lacks row "UQ_TABLE_NAME".toList := by
  rw [Row.lacks_iff]
  exact Row.exists_hasText_iff

/-- Something is wrong with a row where no key can be made of it. -/
theorem unusable_iff :
    Unusable grain row ↔ ∃ fault, IsMalformed grain row fault := by
  rw [Unusable, ← refers_iff]
  constructor
  · rintro (absent | ⟨refers, lacks⟩)
    · exact ⟨_, .table absent⟩
    · by_cases first : Row.Lacks row "FK_COLUMN_NAME".toList
      · obtain ⟨fault, lacking⟩ := Row.lacks_iff.1 first
        exact ⟨fault, .localColumns refers lacking⟩
      · obtain ⟨localText, written⟩ :=
          Row.exists_hasText_iff.2 (mt Row.lacks_iff.2 first)
        rcases lacks with lacking | lacking | ⟨lists, unequal⟩
        · exact absurd lacking first
        · obtain ⟨fault, lacking⟩ := Row.lacks_iff.1 lacking
          exact ⟨fault, .referencedColumns refers written lacking⟩
        · obtain ⟨localText, referencedText, written, written', differ⟩ :=
            unequal
          rw [← length_listedNames, ← length_listedNames] at differ
          exact ⟨_, .unequal refers written written' lists differ⟩
  · rintro ⟨fault, malformed⟩
    cases malformed with
    | table absent => exact .inl absent
    | localColumns refers lacking =>
        exact .inr ⟨refers, .inl (Row.lacks_iff.2 ⟨fault, lacking⟩)⟩
    | referencedColumns refers _ lacking =>
        exact .inr ⟨refers, .inr (.inl (Row.lacks_iff.2 ⟨fault, lacking⟩))⟩
    | unequal refers written written' lists differ =>
        rw [length_listedNames, length_listedNames] at differ
        exact .inr ⟨refers,
          .inr (.inr ⟨lists, _, _, written, written', differ⟩)⟩

/-- A row is read unless no key can be made of it. -/
theorem exists_readRow_iff :
    (∃ addition, readRow grain row = .ok addition) ↔ ¬ Unusable grain row := by
  rw [unusable_iff]
  cases read : readRow grain row with
  | ok addition =>
      simp only [Except.ok.injEq, exists_eq', true_iff, not_exists]
      intro fault malformed
      rw [readRow_eq_error_iff.2 ⟨fault, malformed, rfl⟩] at read
      cases read
  | error error =>
      obtain ⟨fault, malformed, -⟩ := readRow_eq_error_iff.1 read
      simp only [reduceCtorEq, exists_false, false_iff, not_not]
      exact ⟨fault, malformed⟩

/-! ## Rows that are not resolved -/

/-- Rows fail as the first of them of which no key can be made. -/
theorem ofRows_eq_error_iff {error : QueryError} :
    ofRows grain rows = .error error ↔
      ∃ before row after fault,
        rows = before ++ row :: after ∧
          (∀ earlier ∈ before, ¬ Unusable grain earlier) ∧
          IsMalformed grain row fault ∧ error = .malformedRow fault := by
  have failed :
      ofRows grain rows = .error error ↔
        rows.mapM (readRow grain) = .error error := by
    rw [ofRows, Traversal.bind_eq_error_iff]
    refine or_iff_left ?_
    rintro ⟨additions, -, ⟨⟩⟩
  rw [failed, Traversal.mapM_eq_error_iff]
  simp only [exists_readRow_iff, readRow_eq_error_iff]
  constructor
  · rintro ⟨before, row, after, split, usable, fault, malformed, named⟩
    exact ⟨before, row, after, fault, split, usable, malformed, named⟩
  · rintro ⟨before, row, after, fault, split, usable, malformed, named⟩
    exact ⟨before, row, after, split, usable, fault, malformed, named⟩

/-- Rows fail where no key can be made of some of them. -/
theorem ofRows_fails_iff :
    (∃ error, ofRows grain rows = .error error) ↔
      ∃ row ∈ rows, Unusable grain row := by
  cases resolved : ofRows grain rows with
  | error error =>
      obtain ⟨before, row, after, fault, rfl, -, malformed, -⟩ :=
        ofRows_eq_error_iff.1 resolved
      simp only [Except.error.injEq, exists_eq', true_iff]
      exact ⟨row, List.mem_append_right _ List.mem_cons_self,
        unusable_iff.2 ⟨fault, malformed⟩⟩
  | ok keys =>
      obtain ⟨read, -⟩ := ofRows_eq_ok_iff.1 resolved
      simp only [reduceCtorEq, exists_false, false_iff, not_exists, not_and]
      exact fun row member => exists_readRow_iff.1 (read row member)

/-- Every pair of a key is one of those that the texts of a row are read as. -/
theorem exists_row_of_mem_columns {keys : List ForeignKey} {key : ForeignKey}
    {pair : ColumnPair}
    (resolved : ofRows grain rows = .ok keys)
    (listed : key ∈ keys) (member : pair ∈ key.columns) :
    ∃ row ∈ rows, ∃ localText referencedText pairs,
      Row.HasText row "FK_COLUMN_NAME".toList localText ∧
        Row.HasText row "UQ_COLUMN_NAME".toList referencedText ∧
        Pairs localText referencedText grain pairs ∧ pair ∈ pairs := by
  obtain ⟨-, rfl⟩ := ofRows_eq_ok_iff.1 resolved
  obtain ⟨identity, -, rfl⟩ := List.mem_map.1 listed
  obtain ⟨row, own, held⟩ :=
    List.mem_flatMap.1 (List.mem_eraseDups.1 member)
  rw [heldPairs] at held
  cases read : columnPairs grain row with
  | error error =>
      rw [read] at held
      cases held
  | ok pairs =>
      rw [read] at held
      obtain ⟨localText, referencedText, written, written', split⟩ :=
        columnPairs_eq_ok_iff.1 read
      exact ⟨row, List.mem_of_mem_filter own, localText, referencedText, pairs,
        written, written', split, held⟩

end ForeignKey

/-! ## Loads that meet such rows -/

/--
Only one exchange of a load is about the foreign keys, and it is of the
family of the load.
-/
theorem Loader.Inquiry.foreignKeys_of_mem_exchanges
    {inquiry : Inquiry} {exchange : Exchange} {family : ServerFamily}
    (member : exchange ∈ inquiry.exchanges)
    (linking : exchange.call.query = .foreignKeys family) :
    exchange = ⟨inquiry.about .foreignKeys, inquiry.foreignKeys⟩ ∧
      inquiry.family = family := by
  rcases List.mem_append.1 member with counting | about
  · obtain ⟨answer, -, rfl⟩ := List.mem_map.1 counting
    cases linking
  · simp only [List.mem_cons, List.not_mem_nil, or_false] at about
    rcases about with rfl | rfl | rfl
    · cases linking
    · cases linking
    · cases linking
      exact ⟨rfl, rfl⟩

namespace Session

variable {server : Server} {session : Session Cache}
  {memory : Memory Cache} {past : List Call} {reference : Text}

/--
A load that is answered by rows about foreign keys which cannot be resolved
fails as the rows, and leaves the tables.
-/
theorem table_of_malformed_keys
    {call : Call} {rows : List Row} {family : ServerFamily} {fault : RowFault}
    (member :
      (⟨call, .ok rows⟩ : Exchange) ∈ server.exchanges past
        ((session.table reference).outcome server memory past).calls)
    (linking : call.query = .foreignKeys family)
    (failed :
      ForeignKey.ofRows family.foreignKeyGrain rows =
        .error (.malformedRow fault)) :
    let loading := (session.table reference).outcome server memory past
    loading.result =
        .error (.malformedRow
          (TableName.resolve reference session.defaultOwner).fullName fault) ∧
      loading.memory.tables = memory.tables := by
  intro loading
  have fetched := outcome_table_of_mem_exchanges member
  have result : loading.result =
      .error (.malformedRow
        (TableName.resolve reference session.defaultOwner).fullName fault) := by
    rw [fetched] at member
    simp only [loading, fetched]
    rw [result_fetchTable]
    rcases mem_exchanges_fetchTable member with
      ⟨version, -⟩ | ⟨family', found, asked⟩
    · obtain rfl : call = .version := congrArg Exchange.call version
      cases linking
    · have course := Loader.course_of_load server ()
        (past ++ familyCalls memory) family' session.defaultOwner reference
      have told := Loader.mem_exchanges_of_load asked
      obtain ⟨exchanged, sameFamily⟩ :=
        Loader.Inquiry.foreignKeys_of_mem_exchanges told linking
      obtain ⟨rfl, arrived⟩ := Exchange.mk.inj exchanged
      obtain ⟨owners, key, columns⟩ := course.foreignKeys_mem_iff.1
        (Server.call_mem_of_mem_exchanges asked)
      have stage :
          (Loader.inquiryOf server (past ++ familyCalls memory) family'
            session.defaultOwner reference).FailsWith (.malformedRow fault) := by
        refine .foreignKeys owners key columns ?_
        rw [← arrived, sameFamily]
        exact failed
      rw [found, ← Loader.inquiryOf_name server (past ++ familyCalls memory)
        family']
      exact course.result_of_failsWith stage
  exact ⟨result, (keepsMemory_table ⟨_, result⟩).tables⟩

end Session

/--
Rows about foreign keys fail exactly where no key can be made of some of
them, and as the first of these, whatever stands around it.  The pairs of
keys that they are resolved to are pairs of single rows, of lists with
equally many names.  A load that is answered by rows which fail does so too,
names the table, and leaves the tables as they are.
-/
theorem ForeignKey.fails_as_first_unusable_row
    (grain : RowGrain) (rows : List Row) :
    ((∃ error, ofRows grain rows = .error error) ↔
      ∃ row ∈ rows, Unusable grain row) ∧
    (∀ error, ofRows grain rows = .error error ↔
      ∃ before row after fault,
        rows = before ++ row :: after ∧
          (∀ earlier ∈ before, ¬ Unusable grain earlier) ∧
          IsMalformed grain row fault ∧ error = .malformedRow fault) ∧
    (∀ keys, ofRows grain rows = .ok keys →
      ∀ key ∈ keys, ∀ pair ∈ key.columns,
        ∃ row ∈ rows, ∃ localText referencedText pairs,
          Row.HasText row "FK_COLUMN_NAME".toList localText ∧
            Row.HasText row "UQ_COLUMN_NAME".toList referencedText ∧
            (grain = .wholeKey →
              nameCount localText = nameCount referencedText) ∧
            Pairs localText referencedText grain pairs ∧ pair ∈ pairs) ∧
    ∀ fault, ofRows grain rows = .error (.malformedRow fault) →
      ∀ (server : Server) (session : Session Cache) (stage : Stage Cache)
        (reference : Text) (call : Call) (family : ServerFamily),
        let loading :=
          (session.table reference).outcome server stage.memory stage.past
        (⟨call, .ok rows⟩ : Exchange) ∈
            server.exchanges stage.past loading.calls →
          call.query = .foreignKeys family →
          family.foreignKeyGrain = grain →
            loading.result =
              .error (.malformedRow
                (TableName.resolve reference session.defaultOwner).fullName
                fault) ∧
            loading.memory.tables = stage.memory.tables := by
  refine ⟨ofRows_fails_iff, fun error => ofRows_eq_error_iff, ?_, ?_⟩
  · intro keys resolved key listed pair member
    obtain ⟨row, among, localText, referencedText, pairs, written, written',
      split, held⟩ := exists_row_of_mem_columns resolved listed member
    refine ⟨row, among, localText, referencedText, pairs, written, written',
      ?_, split, held⟩
    rintro rfl
    cases split with
    | lists equal =>
        rwa [length_listedNames, length_listedNames] at equal
  · intro fault failed server session stage reference call family loading
      member linking sameGrain
    rw [← sameGrain] at failed
    exact Session.table_of_malformed_keys member linking failed

/--
Of rows about foreign keys the second names two columns on one side and one
on the other, which the load of the table reports.  A row before it that
refers to no table lacks everything else, and one after it does not say to
which table it refers.
-/
theorem ForeignKey.uneven_row_reported :
    let void : Row := [("UQ_TABLE_NAME".toList, .null)]
    let uneven : Row :=
      [("UQ_TABLE_NAME".toList, .text "Regions".toList),
        ("FK_COLUMN_NAME".toList, .text "country, region".toList),
        ("UQ_COLUMN_NAME".toList, .text "country, ,".toList)]
    let untold : Row := [("FK_COLUMN_NAME".toList, .text "note".toList)]
    let session : Session TableEntries := ⟨"dba".toList, some .v9, 1024⟩
    let server : Server := fun past call =>
      if call.query = .foreignKeys .v9 then .ok [void, uneven, untold]
      else serverOfUsers past call
    let loading :=
      (session.table "users".toList).outcome server session.start []
    let fault : RowFault :=
      .unequalLists "country, region".toList "country, ,".toList
    ofRows .wholeKey [void, uneven, untold] = .error (.malformedRow fault) ∧
      loading.result =
        .error (.malformedRow "users".toList fault) ∧
      loading.memory.tables = [] := by
  intro void uneven untold session server loading fault
  obtain ⟨-, failsAs, -, reported⟩ :=
    @fails_as_first_unusable_row TableEntries _ .wholeKey
      [void, uneven, untold]
  have failed :
      ofRows .wholeKey [void, uneven, untold] =
        .error (.malformedRow fault) := by
    refine (failsAs _).2 ⟨[void], uneven, [untold], fault, rfl, ?_, ?_, rfl⟩
    · intro row member
      obtain rfl := List.mem_singleton.1 member
      rw [← exists_readRow_iff]
      exact ⟨none, rfl⟩
    · refine .unequal ⟨_, _, rfl, rfl⟩ ⟨_, rfl, rfl⟩ ⟨_, rfl, rfl⟩ rfl ?_
      decide
  have calls : loading.calls =
      [.ownerCount "users".toList,
        .aboutTable (.primaryKeys .v9) "dba".toList "users".toList,
        .aboutTable (.columns .v9) "dba".toList "users".toList,
        .aboutTable (.foreignKeys .v9) "dba".toList "users".toList] := by
    decide +kernel
  have member :
      (⟨.aboutTable (.foreignKeys .v9) "dba".toList "users".toList,
          .ok [void, uneven, untold]⟩ : Exchange) ∈
        server.exchanges [] loading.calls := by
    rw [calls]
    simp only [Server.exchanges, List.mem_cons]
    exact .inr (.inr (.inr (.inl rfl)))
  have name :
      (TableName.resolve "users".toList session.defaultOwner).fullName =
        "users".toList := by
    decide +kernel
  obtain ⟨result, tables⟩ :=
    reported fault failed server session (.initial session) _ _ _ member rfl
      rfl
  rw [name] at result
  exact ⟨failed, result, tables⟩

end SqlAnywhere
