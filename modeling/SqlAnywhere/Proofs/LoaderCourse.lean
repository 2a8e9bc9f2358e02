import SqlAnywhere.Proofs.LoaderStages

/-!
# The course of a load

The courses that a load can take are the constructors of a relation: one for
each way in which a stage can be the last, with the questions asked by then and
the result.  Whatever the server answers, the loader takes such a course.

What ends a stage excludes that it passes, so that the conditions of the
constructors exclude each other.  The questions and the result of a load
therefore tell exactly which stages passed and which one was the last.
-/

namespace SqlAnywhere.Loader

namespace Inquiry

/--
The courses that a load can take: the questions asked until a stage ends it,
and the result.
-/
inductive Course (inquiry : Inquiry) :
    List Call → Except CatalogError (Option Table) → Prop where
  | uncounted {answer : Answer} {error : QueryError}
      (asked : inquiry.owners = some answer)
      (failed : ownersIn inquiry.name.name answer = .error error) :
      Course inquiry inquiry.counting
        (.error (.ofTable inquiry.name.fullName error))
  | ambiguous {owners : Int64}
      (counted : inquiry.Counted owners) (several : 1 < owners) :
      Course inquiry inquiry.counting
        (.error (.ambiguousName inquiry.name.name owners))
  | keyless {error : QueryError}
      (owners : inquiry.OwnersPass)
      (failed : primaryKeyIn inquiry.primaryKey = .error error) :
      Course inquiry (inquiry.counting ++ [inquiry.about .primaryKeys])
        (.error (.ofTable inquiry.name.fullName error))
  | absent
      (owners : inquiry.OwnersPass) (key : inquiry.KeyPasses)
      (lacking : inquiry.ColumnsLack) :
      Course inquiry
        (inquiry.counting ++
          [inquiry.about .primaryKeys, inquiry.about .columns])
        (.ok none)
  | unlinked {error : QueryError}
      (owners : inquiry.OwnersPass) (key : inquiry.KeyPasses)
      (columns : inquiry.ColumnsPass)
      (failed :
        foreignKeysIn inquiry.family inquiry.foreignKeys = .error error) :
      Course inquiry
        (inquiry.counting ++
          [inquiry.about .primaryKeys, inquiry.about .columns,
            inquiry.about .foreignKeys])
        (.error (.ofTable inquiry.name.fullName error))
  | loaded {names : List Text} {first : Column} {others : List Column}
      {keys : List ForeignKey}
      (owners : inquiry.OwnersPass)
      (key : primaryKeyIn inquiry.primaryKey = .ok names)
      (columns : columnsIn names inquiry.columns = .ok (first :: others))
      (foreignKeys :
        foreignKeysIn inquiry.family inquiry.foreignKeys = .ok keys) :
      Course inquiry
        (inquiry.counting ++
          [inquiry.about .primaryKeys, inquiry.about .columns,
            inquiry.about .foreignKeys])
        (.ok (some
          (Table.ofColumns inquiry.name names (first :: others) keys)))

/-! ## What a course tells -/

section Told

variable {inquiry : Inquiry}
  {calls : List Call} {result : Except CatalogError (Option Table)}

/--
A course asks its questions in order and leaves out none but the last ones.
-/
theorem Course.calls_isPrefix (course : inquiry.Course calls result) :
    calls <+: inquiry.counting ++
      [inquiry.about .primaryKeys, inquiry.about .columns,
        inquiry.about .foreignKeys] := by
  cases course with
  | uncounted | ambiguous => exact List.prefix_append _ _
  | keyless => exact (List.prefix_append_right_inj _).2 ⟨_, rfl⟩
  | absent => exact (List.prefix_append_right_inj _).2 ⟨_, rfl⟩
  | unlinked | loaded => exact List.prefix_rfl

/-- The owners of a name that has none are asked about in every course. -/
theorem Course.counting_isPrefix (course : inquiry.Course calls result) :
    inquiry.counting <+: calls := by
  cases course with
  | uncounted | ambiguous => exact List.prefix_rfl
  | keyless | absent | unlinked | loaded => exact List.prefix_append _ _

theorem about_notMem_counting (query : ServerFamily → CatalogQuery)
    (other : ∀ family, query family ≠ .ownerCount) :
    inquiry.about query ∉ inquiry.counting := by
  intro member
  rw [counting] at member
  split at member
  · have equal := List.mem_singleton.1 member
    exact other _ (congrArg Call.query equal)
  · exact List.not_mem_nil member

/-- The primary key is asked about where the owners pass. -/
theorem Course.primaryKeys_mem_iff (course : inquiry.Course calls result) :
    inquiry.about .primaryKeys ∈ calls ↔ inquiry.OwnersPass := by
  have apart : inquiry.about .primaryKeys ∉ inquiry.counting :=
    about_notMem_counting _ nofun
  cases course with
  | uncounted asked failed =>
      simp [apart, inquiry.not_ownersPass_of_failed asked failed]
  | ambiguous counted several =>
      simp [apart, inquiry.not_ownersPass_of_several counted several]
  | keyless owners | absent owners | unlinked owners | loaded owners =>
      simp [owners]

/-- The columns are asked about where the owners and the primary key pass. -/
theorem Course.columns_mem_iff (course : inquiry.Course calls result) :
    inquiry.about .columns ∈ calls ↔
      inquiry.OwnersPass ∧ inquiry.KeyPasses := by
  have apart : inquiry.about .columns ∉ inquiry.counting :=
    about_notMem_counting _ nofun
  have other : inquiry.about .columns ≠ inquiry.about .primaryKeys := by
    simp [about, callAbout, Call.aboutTable]
  cases course with
  | uncounted asked failed =>
      simp [apart, inquiry.not_ownersPass_of_failed asked failed]
  | ambiguous counted several =>
      simp [apart, inquiry.not_ownersPass_of_several counted several]
  | keyless owners failed =>
      simp [apart, other, inquiry.keyPasses_iff, failed]
  | absent owners key | unlinked owners key => simp [owners, key]
  | loaded owners key =>
      simp [owners, inquiry.keyPasses_iff, key]

/--
The foreign keys are asked about where the owners, the primary key and the
columns pass.
-/
theorem Course.foreignKeys_mem_iff (course : inquiry.Course calls result) :
    inquiry.about .foreignKeys ∈ calls ↔
      inquiry.OwnersPass ∧ inquiry.KeyPasses ∧ inquiry.ColumnsPass := by
  have apart : inquiry.about .foreignKeys ∉ inquiry.counting :=
    about_notMem_counting _ nofun
  have other : inquiry.about .foreignKeys ≠ inquiry.about .primaryKeys := by
    simp [about, callAbout, Call.aboutTable]
  have other' : inquiry.about .foreignKeys ≠ inquiry.about .columns := by
    simp [about, callAbout, Call.aboutTable]
  cases course with
  | uncounted asked failed =>
      simp [apart, inquiry.not_ownersPass_of_failed asked failed]
  | ambiguous counted several =>
      simp [apart, inquiry.not_ownersPass_of_several counted several]
  | keyless owners failed =>
      simp [apart, other, inquiry.keyPasses_iff, failed]
  | absent owners key lacking =>
      simp [apart, other, other', inquiry.columnsLack_iff.1 lacking]
  | unlinked owners key columns => simp [owners, key, columns]
  | @loaded names first others keys owners key columns =>
      have listed := (inquiry.columnsPass_iff names).2 ⟨_, _, columns⟩
      simp [owners, inquiry.keyPasses_iff, key, listed]

/--
A course ends without a table where the owners and the primary key pass and
columns are lacking.
-/
theorem Course.absent_iff (course : inquiry.Course calls result) :
    result = .ok none ↔
      inquiry.OwnersPass ∧ inquiry.KeyPasses ∧ inquiry.ColumnsLack := by
  cases course with
  | uncounted asked failed =>
      simp [inquiry.not_ownersPass_of_failed asked failed]
  | ambiguous counted several =>
      simp [inquiry.not_ownersPass_of_several counted several]
  | keyless owners failed => simp [inquiry.keyPasses_iff, failed]
  | absent owners key lacking => simp [owners, key, lacking]
  | unlinked owners key columns => simp [inquiry.columnsLack_iff, columns]
  | @loaded names first others keys owners key columns =>
      have listed := (inquiry.columnsPass_iff names).2 ⟨_, _, columns⟩
      simp [inquiry.columnsLack_iff, listed]

/-- A course ends with a table where all stages pass. -/
theorem Course.loaded_iff (course : inquiry.Course calls result) :
    (∃ table, result = .ok (some table)) ↔
      inquiry.OwnersPass ∧ inquiry.KeyPasses ∧ inquiry.ColumnsPass ∧
        inquiry.ForeignKeysPass := by
  cases course with
  | uncounted asked failed =>
      simp [inquiry.not_ownersPass_of_failed asked failed]
  | ambiguous counted several =>
      simp [inquiry.not_ownersPass_of_several counted several]
  | keyless owners failed => simp [inquiry.keyPasses_iff, failed]
  | absent owners key lacking => simp [inquiry.columnsLack_iff.1 lacking]
  | unlinked owners key columns failed =>
      simp [inquiry.foreignKeysPass_iff, failed]
  | @loaded names first others keys owners key columns foreignKeys =>
      have listed := (inquiry.columnsPass_iff names).2 ⟨_, _, columns⟩
      simp [owners, inquiry.keyPasses_iff, key, listed,
        inquiry.foreignKeysPass_iff, foreignKeys]

/-- A course of a name that several owners have ends with their number. -/
theorem Course.result_of_several (course : inquiry.Course calls result)
    {owners : Int64}
    (counted : inquiry.Counted owners) (several : 1 < owners) :
    result = .error (.ambiguousName inquiry.name.name owners) := by
  have refused := inquiry.not_ownersPass_of_several counted several
  cases course with
  | uncounted asked failed =>
      exact absurd counted (inquiry.not_counted_of_failed asked failed owners)
  | ambiguous counted' several' =>
      rw [inquiry.counted_inj counted counted']
  | keyless pass | absent pass | unlinked pass | loaded pass =>
      exact absurd pass refused

/--
A course on which a stage fails ends with that failure, which names the
table.
-/
theorem Course.result_of_failsWith (course : inquiry.Course calls result)
    {error : QueryError} (fails : inquiry.FailsWith error) :
    result = .error (.ofTable inquiry.name.fullName error) := by
  cases fails with
  | owners asked failed =>
      have refused := inquiry.not_ownersPass_of_failed asked failed
      cases course with
      | uncounted asked' failed' =>
          obtain rfl := Option.some.inj (asked.symm.trans asked')
          rw [failed] at failed'
          cases failed'
          rfl
      | ambiguous counted =>
          exact absurd counted (inquiry.not_counted_of_failed asked failed _)
      | keyless pass | absent pass | unlinked pass | loaded pass =>
          exact absurd pass refused
  | primaryKey pass failed =>
      have lacking : ¬ inquiry.KeyPasses := by
        simp [inquiry.keyPasses_iff, failed]
      cases course with
      | uncounted asked failed' =>
          exact absurd pass (inquiry.not_ownersPass_of_failed asked failed')
      | ambiguous counted several =>
          exact absurd pass
            (inquiry.not_ownersPass_of_several counted several)
      | keyless owners failed' =>
          rw [failed] at failed'
          cases failed'
          rfl
      | absent owners key | unlinked owners key => exact absurd key lacking
      | loaded owners key =>
          rw [failed] at key
          cases key
  | foreignKeys pass key columns failed =>
      cases course with
      | uncounted asked failed' =>
          exact absurd pass (inquiry.not_ownersPass_of_failed asked failed')
      | ambiguous counted several =>
          exact absurd pass
            (inquiry.not_ownersPass_of_several counted several)
      | keyless owners failed' =>
          obtain ⟨names, named⟩ := inquiry.keyPasses_iff.1 key
          rw [failed'] at named
          cases named
      | absent owners key' columns' =>
          exact absurd columns (inquiry.columnsLack_iff.1 columns')
      | unlinked owners key' columns' failed' =>
          rw [failed] at failed'
          cases failed'
          rfl
      | loaded owners key' columns' foreignKeys =>
          rw [failed] at foreignKeys
          cases foreignKeys

/--
The failures in which courses end: several owners, or the failure of a stage.
-/
theorem Course.error_iff (course : inquiry.Course calls result)
    (failure : CatalogError) :
    result = .error failure ↔
      (∃ owners, inquiry.Counted owners ∧ 1 < owners ∧
        failure = .ambiguousName inquiry.name.name owners) ∨
      ∃ error, inquiry.FailsWith error ∧
        failure = .ofTable inquiry.name.fullName error := by
  constructor
  · intro ended
    cases course with
    | uncounted asked failed =>
        cases ended
        exact .inr ⟨_, .owners asked failed, rfl⟩
    | ambiguous counted several =>
        cases ended
        exact .inl ⟨_, counted, several, rfl⟩
    | keyless owners failed =>
        cases ended
        exact .inr ⟨_, .primaryKey owners failed, rfl⟩
    | unlinked owners key columns failed =>
        cases ended
        exact .inr ⟨_, .foreignKeys owners key columns failed, rfl⟩
    | absent | loaded => cases ended
  · rintro (⟨owners, counted, several, rfl⟩ | ⟨error, fails, rfl⟩)
    · exact course.result_of_several counted several
    · exact course.result_of_failsWith fails

end Told

end Inquiry

/-! ## The course of the loader -/

/-- What is asked and answered once the name of a table is settled. -/
def inquiryAbout (server : Server) (past : List Call)
    (family : ServerFamily) (name : TableName) (owners : Option Answer) :
    Inquiry :=
  let key := callAbout .primaryKeys family name
  let columns := callAbout .columns family name
  { family
    name
    owners
    primaryKey := server past key
    columns := server (past ++ [key]) columns
    foreignKeys :=
      server (past ++ [key, columns]) (callAbout .foreignKeys family name) }

/--
What a load of a reference is about and is answered.  The answer about the
owners comes first, where they are asked about.
-/
def inquiryOf (server : Server) (past : List Call) (family : ServerFamily)
    (defaultOwner reference : Text) : Inquiry :=
  let name := TableName.resolve reference defaultOwner
  let count := Call.ownerCount name.name
  if TableName.IsBare reference then
    inquiryAbout server (past ++ [count]) family name
      (some (server past count))
  else
    inquiryAbout server past family name none

section Courses

variable {Memory : Type}
  (server : Server) (memory : Memory) (past : List Call)
  (family : ServerFamily)

/--
A table whose name passes is described on a course that follows the questions
about owners.
-/
theorem course_of_describe
    (name : TableName) {owners : Option Answer}
    (pass : (inquiryAbout server past family name owners).OwnersPass) :
    let inquiry := inquiryAbout server past family name owners
    let describing := (describe family name).outcome server memory past
    inquiry.Course (inquiry.counting ++ describing.calls)
      describing.result := by
  intro inquiry describing
  simp only [describing, outcome_describe]
  cases named :
      primaryKeyIn (server past (callAbout .primaryKeys family name)) with
  | error error => exact .keyless pass named
  | ok names =>
      have key : inquiry.KeyPasses := inquiry.keyPasses_iff.2 ⟨names, named⟩
      have columns := inquiry.columnsPass_iff names
      have listed : columnsIn names inquiry.columns =
        columnsIn names
          (server (past ++ [callAbout .primaryKeys family name])
            (callAbout .columns family name)) := rfl
      simp only
      generalize columnsIn names
        (server (past ++ [callAbout .primaryKeys family name])
          (callAbout .columns family name)) = described at listed
      rw [listed] at columns
      rcases described with error | _ | ⟨first, others⟩
      · refine .absent pass key (inquiry.columnsLack_iff.2 ?_)
        simp [columns]
      · refine .absent pass key (inquiry.columnsLack_iff.2 ?_)
        simp [columns]
      · simp only
        cases linked : foreignKeysIn family
            (server
              (past ++ [callAbout .primaryKeys family name,
                callAbout .columns family name])
              (callAbout .foreignKeys family name)) with
        | error error =>
            exact .unlinked pass key (columns.2 ⟨first, others, rfl⟩) linked
        | ok keys => exact .loaded pass named listed linked

/--
Whatever the server answers, a load takes a course that the answers allow.
-/
theorem course_of_load (defaultOwner reference : Text) :
    let loading :=
      (load family defaultOwner reference).outcome server memory past
    (inquiryOf server past family defaultOwner reference).Course
      loading.calls loading.result := by
  intro loading
  rw [inquiryOf]
  by_cases bare : TableName.IsBare reference
  · simp only [loading, outcome_load_of_isBare family defaultOwner bare,
      if_pos bare]
    generalize TableName.resolve reference defaultOwner = name
    cases counted :
        ownersIn name.name (server past (.ownerCount name.name)) with
    | error error => exact .uncounted rfl counted
    | ok owners =>
        simp only
        split
        · next several => exact .ambiguous ⟨_, rfl, counted⟩ several
        · next single =>
            exact course_of_describe server memory _ family name
              fun _ => ⟨owners, ⟨_, rfl, counted⟩, single⟩
  · simp only [loading, outcome_load_of_not_isBare family defaultOwner bare,
      if_neg bare]
    exact course_of_describe server memory past family _ nofun

@[simp]
theorem inquiryOf_name (defaultOwner reference : Text) :
    (inquiryOf server past family defaultOwner reference).name =
      TableName.resolve reference defaultOwner := by
  rw [inquiryOf]
  split <;> rfl

@[simp]
theorem inquiryOf_family (defaultOwner reference : Text) :
    (inquiryOf server past family defaultOwner reference).family =
      family := by
  rw [inquiryOf]
  split <;> rfl

/-- Owners are asked about for names that have none. -/
theorem inquiryOf_counting (defaultOwner reference : Text) :
    (inquiryOf server past family defaultOwner reference).counting =
      if TableName.IsBare reference then
        [.ownerCount (TableName.resolve reference defaultOwner).name]
      else
        [] := by
  rw [Inquiry.counting, inquiryOf_name, inquiryOf]
  by_cases bare : TableName.IsBare reference
  · rw [if_pos bare, if_pos bare]
    rfl
  · rw [if_neg bare, if_neg bare]
    rfl

/--
The questions of a load, when each is asked, and how the load ends.  The
questions are of the given family and about the parsed name; columns that
cannot be read count as none, and every other failure names the table.
-/
theorem stages_of_load (defaultOwner reference : Text) :
    let name := TableName.resolve reference defaultOwner
    let inquiry := inquiryOf server past family defaultOwner reference
    let loading :=
      (load family defaultOwner reference).outcome server memory past
    let about (query : CatalogQuery) : Call :=
      ⟨query, [("tableName".toList, name.name),
        ("schemaName".toList, name.owner)]⟩
    let counting : List Call :=
      if TableName.IsBare reference then
        [⟨.ownerCount, [("tableName".toList, name.name)]⟩]
      else
        []
    (counting <+: loading.calls ∧
      loading.calls <+: counting ++
        [about (.primaryKeys family), about (.columns family),
          about (.foreignKeys family)]) ∧
    (about (.primaryKeys family) ∈ loading.calls ↔ inquiry.OwnersPass) ∧
    (about (.columns family) ∈ loading.calls ↔
      inquiry.OwnersPass ∧ inquiry.KeyPasses) ∧
    (about (.foreignKeys family) ∈ loading.calls ↔
      inquiry.OwnersPass ∧ inquiry.KeyPasses ∧ inquiry.ColumnsPass) ∧
    (∀ bare owners,
      loading.result = .error (.ambiguousName bare owners) ↔
        inquiry.Counted owners ∧ 1 < owners ∧ bare = name.name) ∧
    (loading.result = .ok none ↔
      inquiry.OwnersPass ∧ inquiry.KeyPasses ∧ inquiry.ColumnsLack) ∧
    ((∃ table, loading.result = .ok (some table)) ↔
      inquiry.OwnersPass ∧ inquiry.KeyPasses ∧ inquiry.ColumnsPass ∧
        inquiry.ForeignKeysPass) ∧
    (∀ table fault,
      loading.result = .error (.malformedRow table fault) ↔
        inquiry.FailsWith (.malformedRow fault) ∧ table = name.fullName) ∧
    (∀ table error,
      loading.result = .error (.query table error) ↔
        inquiry.FailsWith error ∧ (∀ fault, error ≠ .malformedRow fault) ∧
          table = name.fullName) ∧
    (∀ error, loading.result ≠ .error (.connection error)) ∧
    ∀ version, loading.result ≠ .error (.unsupportedVersion version) := by
  intro name inquiry loading about counting
  have course : inquiry.Course loading.calls loading.result :=
    course_of_load server memory past family defaultOwner reference
  have named : inquiry.name = name :=
    inquiryOf_name server past family defaultOwner reference
  have asked (query : ServerFamily → CatalogQuery) :
      inquiry.about query = about (query family) := by
    rw [Inquiry.about, named, inquiryOf_family]
    rfl
  have counted : inquiry.counting = counting :=
    inquiryOf_counting server past family defaultOwner reference
  have failed := course.error_iff
  rw [named] at failed
  refine ⟨⟨?_, ?_⟩, ?_, ?_, ?_, ?_, course.absent_iff, course.loaded_iff,
    ?_, ?_, ?_, ?_⟩
  · rw [← counted]
    exact course.counting_isPrefix
  · rw [← counted, ← asked, ← asked, ← asked]
    exact course.calls_isPrefix
  · rw [← asked]
    exact course.primaryKeys_mem_iff
  · rw [← asked]
    exact course.columns_mem_iff
  · rw [← asked]
    exact course.foreignKeys_mem_iff
  · intro bare owners
    constructor
    · intro ended
      rcases (failed _).1 ended with
        ⟨owners', number, several, equal⟩ | ⟨error, -, equal⟩
      · cases equal
        exact ⟨number, several, rfl⟩
      · exact absurd equal (CatalogError.ne_ofTable nofun nofun)
    · rintro ⟨number, several, rfl⟩
      exact (failed _).2 (.inl ⟨owners, number, several, rfl⟩)
  · intro table fault
    simp [failed, CatalogError.malformedRow_eq_ofTable_iff]
  · intro table error
    simp [failed, CatalogError.query_eq_ofTable_iff]
  · intro error ended
    rcases (failed _).1 ended with ⟨_, _, _, equal⟩ | ⟨_, -, equal⟩
    · cases equal
    · exact absurd equal (CatalogError.ne_ofTable nofun nofun)
  · intro version ended
    rcases (failed _).1 ended with ⟨_, _, _, equal⟩ | ⟨_, -, equal⟩
    · cases equal
    · exact absurd equal (CatalogError.ne_ofTable nofun nofun)

end Courses

end SqlAnywhere.Loader
