import SqlAnywhere.Proofs.SegmentGrammar
import SqlAnywhere.Proofs.Traversal
import SqlAnywhere.Query.Binding

/-!
# What binding does to a statement

Binding is described by the one decomposition of a statement into segments: a
question mark stands for each placeholder, all other segments are copied, and
the values are those of the placeholders in order.  The first placeholder that
no parameter has the name of is reported.  The text of the bound statement
therefore depends on the statement alone.
-/

namespace SqlAnywhere

/-- A segment as it stands in a statement whose parameters are positions. -/
def Segment.marked (segment : Segment) : Text :=
  match segment.parameter? with
  | none => segment.text
  | some _ => ['?']

namespace Parameter

/-- Whether a parameter has a name, which colons can stand before. -/
def Names (parameter : Parameter) (wanted : Text) : Prop :=
  ∃ colons, (∀ colon ∈ colons, colon = ':') ∧ parameter.1 = colons ++ wanted

/-- Parameters give a name the value of the first one of that name. -/
def Gives (parameters : List Parameter) (wanted value : Text) : Prop :=
  ∃ before parameter after, parameters = before ++ parameter :: after ∧
    parameter.Names wanted ∧ parameter.2 = value ∧
    ∀ earlier ∈ before, ¬ earlier.Names wanted

variable {wanted : Text}

/-- The name of a parameter is what stands after its colons. -/
theorem names_iff (noColon : wanted.head? ≠ some ':')
    (parameter : Parameter) :
    parameter.Names wanted ↔ parameter.name = wanted := by
  constructor
  · rintro ⟨colons, all, whole⟩
    have stops : wanted.dropWhile (· = ':') = wanted := by
      cases wanted with
      | nil => rfl
      | cons letter letters =>
          exact List.dropWhile_cons_of_neg (by simpa using noColon)
    rw [name, whole, List.dropWhile_append_of_pos (by simpa using all), stops]
  · rintro rfl
    refine ⟨parameter.1.takeWhile (· = ':'), ?_, ?_⟩
    · intro colon member
      have all := List.all_eq_true.1
        (List.all_takeWhile (l := parameter.1) (p := (· = ':'))) colon member
      simpa using all
    · exact List.takeWhile_append_dropWhile.symm

/-- The value that is looked up is the one that parameters give. -/
theorem value?_eq_some_iff (noColon : wanted.head? ≠ some ':')
    (parameters : List Parameter) (value : Text) :
    value? parameters wanted = some value ↔ Gives parameters wanted value := by
  simp only [value?, Option.map_eq_some_iff,
    List.find?_eq_some_iff_append, Gives, names_iff noColon]
  constructor
  · rintro ⟨parameter, ⟨named, before, after, whole, others⟩, rfl⟩
    exact ⟨before, parameter, after, whole, by simpa using named, rfl,
      by simpa using others⟩
  · rintro ⟨before, parameter, after, whole, named, rfl, others⟩
    exact ⟨parameter, ⟨by simpa using named, before, after, whole,
      by simpa using others⟩, rfl⟩

/-- No value is looked up for a name that no parameter has. -/
theorem value?_eq_none_iff (noColon : wanted.head? ≠ some ':')
    (parameters : List Parameter) :
    value? parameters wanted = none ↔
      ∀ parameter ∈ parameters, ¬ parameter.Names wanted := by
  simp [value?, names_iff noColon]

end Parameter

namespace BoundStatement

/-- The value for a placeholder, or the report that it has none. -/
def valueFor (parameters : List Parameter) (wanted : Text) :
    Except QueryError Text :=
  match Parameter.value? parameters wanted with
  | none => .error (.unboundParameter wanted)
  | some value => .ok value

/-- A placeholder has the value that parameters give to its name. -/
theorem valueFor_eq_ok_iff {wanted : Text}
    (noColon : wanted.head? ≠ some ':')
    (parameters : List Parameter) (value : Text) :
    valueFor parameters wanted = .ok value ↔
      Parameter.Gives parameters wanted value := by
  rw [← Parameter.value?_eq_some_iff noColon, valueFor]
  cases Parameter.value? parameters wanted <;> simp

/-- A placeholder is reported that no parameter has the name of. -/
theorem valueFor_eq_error_iff {wanted : Text}
    (noColon : wanted.head? ≠ some ':')
    (parameters : List Parameter) (error : QueryError) :
    valueFor parameters wanted = .error error ↔
      (∀ parameter ∈ parameters, ¬ parameter.Names wanted) ∧
        error = .unboundParameter wanted := by
  rw [← Parameter.value?_eq_none_iff noColon, valueFor]
  cases Parameter.value? parameters wanted <;> simp [eq_comm]

section Names

variable {names : List Text} (noColon : ∀ name ∈ names, name.head? ≠ some ':')
  (parameters : List Parameter)

include noColon

/-- Placeholders have the values that parameters give to their names. -/
theorem mapM_valueFor_eq_ok_iff (values : List Text) :
    names.mapM (valueFor parameters) = .ok values ↔
      List.Forall₂ (Parameter.Gives parameters) names values := by
  rw [Traversal.mapM_eq_ok_iff]
  induction names generalizing values with
  | nil => simp
  | cons name names ih =>
      obtain ⟨first, others⟩ := List.forall_mem_cons.1 noColon
      simp only [List.forall₂_cons_left_iff, ih others,
        valueFor_eq_ok_iff first]

/-- The first placeholder is reported that no parameter has the name of. -/
theorem mapM_valueFor_eq_error_iff (error : QueryError) :
    names.mapM (valueFor parameters) = .error error ↔
      ∃ before name after, names = before ++ name :: after ∧
        (∀ earlier ∈ before, ∃ value,
          Parameter.Gives parameters earlier value) ∧
        (∀ parameter ∈ parameters, ¬ parameter.Names name) ∧
        error = .unboundParameter name := by
  rw [Traversal.mapM_eq_error_iff]
  constructor
  · rintro ⟨before, name, after, rfl, passed, failed⟩
    obtain ⟨earlierNamed, others⟩ := List.forall_mem_append.1 noColon
    obtain ⟨nameNamed, -⟩ := List.forall_mem_cons.1 others
    refine ⟨before, name, after, rfl, ?_,
      (valueFor_eq_error_iff nameNamed parameters error).1 failed⟩
    intro earlier member
    simpa only [valueFor_eq_ok_iff (earlierNamed earlier member)] using
      passed earlier member
  · rintro ⟨before, name, after, rfl, passed, failed⟩
    obtain ⟨earlierNamed, others⟩ := List.forall_mem_append.1 noColon
    obtain ⟨nameNamed, -⟩ := List.forall_mem_cons.1 others
    refine ⟨before, name, after, rfl, ?_,
      (valueFor_eq_error_iff nameNamed parameters error).2 failed⟩
    intro earlier member
    simpa only [valueFor_eq_ok_iff (earlierNamed earlier member)] using
      passed earlier member

end Names

/-- Segments are bound by their marks and the values for their placeholders. -/
theorem ofSegments_eq (parameters : List Parameter)
    (segments : List Segment) :
    ofSegments parameters segments =
      ((segments.filterMap Segment.parameter?).mapM
        (valueFor parameters)).map
          fun values => ⟨segments.flatMap Segment.marked, values⟩ := by
  induction segments with
  | nil => rfl
  | cons segment segments ih =>
      rw [ofSegments, ih]
      cases placeholder : segment.parameter? with
      | none =>
          rw [List.filterMap_cons_none placeholder, List.flatMap_cons,
            Segment.marked, placeholder]
          cases (segments.filterMap Segment.parameter?).mapM
              (valueFor parameters) with
          | error error => rfl
          | ok values => rfl
      | some wanted =>
          rw [List.filterMap_cons_some placeholder, List.flatMap_cons,
            Segment.marked, placeholder, List.mapM_cons, valueFor]
          simp only
          cases Parameter.value? parameters wanted with
          | none => rfl
          | some value =>
              cases (segments.filterMap Segment.parameter?).mapM
                  (valueFor parameters) with
              | error error => rfl
              | ok values => rfl

/--
The name of a placeholder begins with a letter or an underscore, and not with
a colon.
-/
theorem head?_ne_colon_of_begins
    {segment : Segment} {rest wanted : Text}
    (begins : Segment.Begins segment rest)
    (placeholder : segment.parameter? = some wanted) :
    wanted.head? ≠ some ':' := by
  intro colon
  have parts := (begins.of_parameter?_eq_some placeholder).2
  exact absurd (parts ':' (List.mem_of_mem_head? colon)) (by decide)

theorem head?_ne_colon_of_decomposes
    {statement wanted : Text} {segments : List Segment}
    (decomposes : Segment.Decomposes statement segments)
    (member : wanted ∈ segments.filterMap Segment.parameter?) :
    wanted.head? ≠ some ':' := by
  induction decomposes with
  | nil => exact absurd member List.not_mem_nil
  | @cons segment rest segments begins others ih =>
      obtain ⟨other, listed, placeholder⟩ := List.mem_filterMap.1 member
      rcases List.mem_cons.1 listed with rfl | listed
      · exact head?_ne_colon_of_begins begins placeholder
      · exact ih (List.mem_filterMap.2 ⟨other, listed, placeholder⟩)

/--
A statement has one decomposition into segments, and it alone makes the text
of the bound statement: a question mark for each placeholder, and the text of
every other segment.  Binding fails for the first placeholder that no
parameter names, and otherwise lists for each placeholder the value of the
first parameter of its name.
-/
theorem bind_by_segments (statement : Text) :
    ∃ segments,
      Segment.Decomposes statement segments ∧
      (∀ others, Segment.Decomposes statement others → others = segments) ∧
      let wanted := segments.filterMap Segment.parameter?
      ∀ parameters : List Parameter,
        (∀ error, bind statement parameters = .error error ↔
          ∃ before name after, wanted = before ++ name :: after ∧
            (∀ earlier ∈ before, ∃ value,
              Parameter.Gives parameters earlier value) ∧
            (∀ parameter ∈ parameters, ¬ parameter.Names name) ∧
            error = .unboundParameter name) ∧
        ∀ bound, bind statement parameters = .ok bound ↔
          bound.text = segments.flatMap Segment.marked ∧
            List.Forall₂ (Parameter.Gives parameters) wanted
              bound.values := by
  have decomposes := Segment.decomposes_scan statement
  refine ⟨Segment.scan statement, decomposes, ?_, ?_⟩
  · intro others decomposes'
    exact (Segment.decomposes_iff statement others).1 decomposes'
  intro wanted parameters
  have noColon : ∀ name ∈ wanted, name.head? ≠ some ':' :=
    fun name => head?_ne_colon_of_decomposes decomposes
  have bound : bind statement parameters = _ :=
    ofSegments_eq parameters (Segment.scan statement)
  constructor
  · intro error
    rw [bound, ← mapM_valueFor_eq_error_iff noColon]
    cases wanted.mapM (valueFor parameters) <;> simp [Except.map]
  · rintro ⟨text, values⟩
    rw [bound, ← mapM_valueFor_eq_ok_iff noColon]
    cases wanted.mapM (valueFor parameters) <;> simp [Except.map, eq_comm]

end BoundStatement

end SqlAnywhere
