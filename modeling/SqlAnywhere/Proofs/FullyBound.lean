import SqlAnywhere.Proofs.Binding

/-!
# Bound statements

Binding writes a question mark for a placeholder, and a question mark neither
opens a segment nor closes one.  A bound statement therefore has the segments
of the statement that it was made of, each in its place, but for the question
marks.  None of them is a placeholder, so that binding it again leaves it as
it is, whatever the parameters are.
-/

namespace SqlAnywhere

namespace Segment

/-! ## A question mark before and after other segments -/

/--
A segment in a bound statement: a question mark for a placeholder, and any
other one as it is.
-/
def positioned (segment : Segment) : Segment :=
  match segment.parameter? with
  | none => segment
  | some _ => single '?'

@[simp]
theorem text_positioned (segment : Segment) :
    segment.positioned.text = segment.marked := by
  rw [positioned, marked]
  cases segment.parameter? <;> rfl

@[simp]
theorem parameter?_positioned (segment : Segment) :
    segment.positioned.parameter? = none := by
  rw [positioned]
  cases placeholder : segment.parameter? with
  | none => exact placeholder
  | some name => rfl

/--
Whether a bound text begins as the text that it was made of, or with a
question mark where that one begins with a colon.
-/
def Resumes (rest bound : Text) : Prop :=
  bound.head? = rest.head? ∨
    rest.head? = some ':' ∧ bound.head? = some '?'

/-- A segment that stands before a colon can stand before a question mark. -/
theorem Begins.before_question {segment : Segment} {rest bound : Text}
    (begins : Begins segment rest) (colon : rest.head? = some ':')
    (question : bound.head? = some '?') : Begins segment bound := by
  cases begins with
  | closed known holds =>
      refine .closed known holds ?_
      rcases mem_enclosures_iff.1 known with rfl | rfl | rfl | rfl
      · simp [quotation, question]
      · simp [quotation, question]
      · trivial
      · trivial
  | unclosed => cases colon
  | lineComment _ ends => exact absurd (ends ':' colon) (by decide)
  | doubleColon => exact .doubleColon
  | placeholder start parts =>
      refine .placeholder start parts fun next first => ?_
      rw [question] at first
      cases first
      decide
  | plain single =>
      refine .plain ?_
      rintro (mark | ⟨-, dash⟩ | ⟨-, star⟩ | ⟨-, next, first, opens⟩)
      · exact single (.inl mark)
      · rw [question] at dash
        cases dash
      · rw [question] at star
        cases star
      · rw [question] at first
        cases first
        exact absurd opens (by decide)

/--
A segment of a statement begins what the bound statement is from there on.
-/
theorem Begins.positioned {segment : Segment} {rest bound : Text}
    (begins : Begins segment rest) (resumes : Resumes rest bound) :
    Begins segment.positioned bound := by
  rw [Segment.positioned]
  cases segment.parameter? with
  | none =>
      rcases resumes with same | ⟨colon, question⟩
      · exact begins.congr_head? same.symm
      · exact begins.before_question colon question
  | some name => exact .plain (not_opens_of_notMem (by decide) bound)

theorem Decomposes.resumes {statement : Text} {segments : List Segment}
    (decomposes : Decomposes statement segments) :
    Resumes statement (segments.flatMap marked) := by
  cases decomposes with
  | nil => exact .inl rfl
  | @cons segment rest segments begins others =>
      rw [List.flatMap_cons, marked]
      cases placeholder : segment.parameter? with
      | none =>
          obtain ⟨first, text, whole⟩ :=
            List.exists_cons_of_ne_nil begins.text_ne_nil
          rw [whole]
          exact .inl rfl
      | some name =>
          rw [(begins.of_parameter?_eq_some placeholder).1]
          exact .inr ⟨rfl, rfl⟩

/--
The text of a bound statement decomposes into the segments of the statement,
with question marks for the placeholders.
-/
theorem Decomposes.positioned {statement : Text} {segments : List Segment}
    (decomposes : Decomposes statement segments) :
    Decomposes (segments.flatMap marked) (segments.map Segment.positioned) := by
  induction decomposes with
  | nil => exact .nil
  | @cons segment rest segments begins others ih =>
      rw [List.flatMap_cons, List.map_cons, ← text_positioned]
      exact .cons (begins.positioned others.resumes) ih

end Segment

namespace BoundStatement

open Segment

/-- The text of a bound statement depends on the statement alone. -/
theorem text_of_bind {statement : Text} {parameters : List Parameter}
    {bound : BoundStatement} (binding : bind statement parameters = .ok bound) :
    bound.text = (scan statement).flatMap marked := by
  rw [bind, ofSegments_eq, Traversal.map_eq_ok_iff] at binding
  obtain ⟨values, -, rfl⟩ := binding
  rfl

/-- Segments of a bound statement are copied. -/
theorem ofSegments_positioned (parameters : List Parameter)
    (segments : List Segment) :
    ofSegments parameters (segments.map Segment.positioned) =
      .ok ⟨segments.flatMap marked, []⟩ := by
  induction segments with
  | nil => rfl
  | cons segment segments ih =>
      rw [List.map_cons, ofSegments, parameter?_positioned, ih,
        text_positioned]
      rfl

/--
The text of a bound statement has one decomposition: the segments of the
statement in their order, with a question mark for each placeholder.  Nothing
in it is left to bind, whatever parameters there are.
-/
theorem nothing_left_to_bind
    {statement : Text} {parameters : List Parameter} {bound : BoundStatement}
    (binding : bind statement parameters = .ok bound) :
    (∃ segments, Decomposes statement segments ∧
      ∀ others, Decomposes bound.text others ↔
        others = segments.map Segment.positioned) ∧
    ∀ later : List Parameter,
      bind bound.text later = .ok ⟨bound.text, []⟩ := by
  have whole := text_of_bind binding
  have decomposes := (decomposes_scan statement).positioned
  rw [← whole] at decomposes
  have segmented := (decomposes_iff _ _).1 decomposes
  refine ⟨⟨scan statement, decomposes_scan statement, ?_⟩, ?_⟩
  · intro others
    rw [decomposes_iff, segmented]
  · intro later
    rw [bind, ← segmented, ofSegments_positioned, ← whole]

/--
Placeholders that touch colons, a slash, a star and dashes, before a literal
that is never closed.
-/
theorem touching_placeholders_bound :
    let statement := ":a::b/:a*:c--:a\n':a".toList
    let parameters : List Parameter :=
      [("a".toList, ":c".toList), (":c".toList, "'".toList)]
    let text := "?::b/?*?--:a\n':a".toList
    bind statement parameters =
        .ok ⟨text, [":c".toList, ":c".toList, "'".toList]⟩ ∧
      (∃ segments, Decomposes statement segments ∧
        ∀ others, Decomposes text others ↔
          others = segments.map Segment.positioned) ∧
      ∀ later, bind text later = .ok ⟨text, []⟩ := by
  intro statement parameters text
  have segments : scan statement =
      [⟨.placeholder, ":a".toList⟩, ⟨.doubleColon, "::".toList⟩,
        ⟨.plain, ['b']⟩, ⟨.plain, ['/']⟩, ⟨.placeholder, ":a".toList⟩,
        ⟨.plain, ['*']⟩, ⟨.placeholder, ":c".toList⟩,
        ⟨.lineComment, "--:a".toList⟩, ⟨.plain, ['\n']⟩,
        ⟨.literal, "':a".toList⟩] := by
    decide +kernel
  have binding : bind statement parameters =
      .ok ⟨text, [":c".toList, ":c".toList, "'".toList]⟩ := by
    rw [bind, segments]
    rfl
  exact ⟨binding, nothing_left_to_bind binding⟩

end BoundStatement

end SqlAnywhere
