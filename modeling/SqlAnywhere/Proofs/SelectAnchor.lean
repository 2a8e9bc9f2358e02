import SqlAnywhere.Proofs.StatementReading
import SqlAnywhere.Sql.RowLimit

/-!
# Where a clause is inserted

Blanks, opening parentheses and comments can stand before the leading SELECT
of a statement.  Skipping these segments reaches the anchor of the statement.
If SELECT stands there, the clause of a row window follows it, or the DISTINCT
after it.

The scan for the leading SELECT also reads a comment past its first closing
mark, if no SELECT follows that mark and one follows a later mark.  A
statement whose anchor is no SELECT is kept, unless it can be misread in this
way.
-/

namespace SqlAnywhere

namespace Segment

/--
Whether a segment can stand before the leading SELECT; a comment that is
never closed reaches the end of the statement, so that nothing stands after
it.
-/
def isSkipped (segment : Segment) : Bool :=
  match segment.kind with
  | .lineComment | .blockComment => true
  | .plain => segment.text.all fun character => isBlank character || character = '('
  | _ => false

end Segment

open Segment

namespace Statement

/-- What is skipped of a statement before its anchor. -/
def prelude (statement : Text) : Text :=
  ((scan statement).takeWhile isSkipped).flatMap Segment.text

/-- What stands in a statement from its anchor on. -/
def anchored (statement : Text) : Text :=
  ((scan statement).dropWhile isSkipped).flatMap Segment.text

theorem prelude_append_anchored (statement : Text) :
    prelude statement ++ anchored statement = statement := by
  rw [prelude, anchored, ← List.flatMap_append,
    List.takeWhile_append_dropWhile]
  exact flatMap_text_scan statement

@[simp]
theorem anchored_nil : anchored [] = [] := by
  simp [anchored]

/-- A segment that can stand before SELECT is skipped. -/
theorem anchored_append {segment : Segment} {rest : Text}
    (begins : Begins segment rest) (skips : segment.isSkipped) :
    anchored (segment.text ++ rest) = anchored rest := by
  rw [anchored, scan_append_of_begins begins, List.dropWhile_cons_of_pos skips]
  rfl

/--
A segment that cannot stand before SELECT is the first one that is not
skipped.
-/
theorem anchored_append_of_not {segment : Segment} {rest : Text}
    (begins : Begins segment rest) (stays : ¬ segment.isSkipped) :
    anchored (segment.text ++ rest) = segment.text ++ rest := by
  rw [anchored, scan_append_of_begins begins, List.dropWhile_cons_of_neg stays,
    ← scan_append_of_begins begins, flatMap_text_scan]

/--
The segments from the anchor of a statement on are those of what stands
there.
-/
theorem scan_anchored (statement : Text) :
    scan (anchored statement) = (scan statement).dropWhile isSkipped := by
  induction statement using induction_on_segments with
  | nil => simp
  | segment segment rest begins ih =>
      rw [scan_append_of_begins begins]
      by_cases skips : segment.isSkipped
      · rw [anchored_append begins skips, List.dropWhile_cons_of_pos skips, ih]
      · rw [anchored_append_of_not begins skips,
          List.dropWhile_cons_of_neg skips, scan_append_of_begins begins]

end Statement

namespace LeadingSelect

/-! ## The anchor -/

/--
What is left after a segment that can stand before SELECT is left of both
together.
-/
theorem rest?_append {segment : Segment} {others rest : Text}
    (begins : Begins segment others) (skips : segment.isSkipped)
    (found : rest? others = some rest) :
    rest? (segment.text ++ others) = some rest := by
  cases begins with
  | @closed enclosure body _ known holds permits =>
      rcases mem_enclosures_iff.1 known with rfl | rfl | rfl | rfl
      · exact absurd skips Bool.false_ne_true
      · exact absurd skips Bool.false_ne_true
      · exact absurd skips Bool.false_ne_true
      · have passed := inBlock_comment holds found
        rw [← rest?_blockComment] at passed
        simpa [comment] using passed
  | unclosed known holds => cases found
  | @lineComment words _ oneLine ends =>
      rw [List.cons_append, List.cons_append, rest?_lineComment,
        inLine_line oneLine]
      · exact found
      · cases others with
        | nil => cases found
        | cons next others => exact congrArg some (ends next rfl)
  | doubleColon => exact absurd skips (by decide)
  | placeholder => exact absurd skips (by simp [isSkipped])
  | plain single =>
      rw [List.singleton_append, rest?_cons_of_skips]
      · exact found
      · simpa [isSkipped] using skips

/-- What is left at the anchor of a statement is left of the statement. -/
theorem rest?_of_anchored {statement rest : Text}
    (found : rest? (Statement.anchored statement) = some rest) :
    rest? statement = some rest := by
  induction statement using induction_on_segments with
  | nil => rwa [Statement.anchored_nil] at found
  | segment segment others begins ih =>
      by_cases skips : segment.isSkipped
      · rw [Statement.anchored_append begins skips] at found
        exact rest?_append begins skips (ih found)
      · rwa [Statement.anchored_append_of_not begins skips] at found

/-- A word that spells a keyword holds no character that opens a segment. -/
theorem notMem_openers_of_spells {word keyword : Text}
    (spells : Text.Spells word keyword)
    (letters : ∀ opener ∈ openers, foldCharacter opener ∉ keyword) :
    ∀ character ∈ word, character ∉ openers := by
  intro character member opener
  apply letters character opener
  rw [← spells]
  exact List.mem_map_of_mem member

/-- The keywords before a query are characters that open no segment. -/
theorem IsSelect.notMem_openers {keywords rest : Text}
    (select : IsSelect keywords rest) :
    ∀ character ∈ keywords, character ∉ openers := by
  have letters : ∀ opener ∈ openers,
      foldCharacter opener ∉ "select".toList ∧
        foldCharacter opener ∉ "distinct".toList ∧ ¬ isBlank opener :=
    Text.forall_mem_of_all (by decide)
  cases select with
  | all spells =>
      exact notMem_openers_of_spells spells
        fun opener member => (letters opener member).1
  | distinct spells distinct =>
      obtain ⟨-, blanks, spells', -⟩ := distinct
      intro character member opener
      rcases List.mem_append.1 member with member | member
      · exact notMem_openers_of_spells spells
          (fun opener member => (letters opener member).1) _ member opener
      rcases List.mem_append.1 member with blank | member
      · exact (letters character opener).2.2 (blanks character blank)
      · exact notMem_openers_of_spells spells'
          (fun opener member => (letters opener member).2.1) _ member opener

/-- Nothing is skipped where SELECT stands. -/
theorem anchored_of_isSelect {keywords rest : Text}
    (select : IsSelect keywords rest) :
    Statement.anchored (keywords ++ rest) = keywords ++ rest := by
  have stays : (scan (keywords ++ rest)).dropWhile isSkipped =
      scan (keywords ++ rest) := by
    rw [scan_append_of_forall_notMem select.notMem_openers]
    obtain ⟨first, others, rfl, letter⟩ := select.exists_cons
    apply List.dropWhile_cons_of_neg
    simpa [isSkipped, single] using (not_skips_of_folds letter).1
  rw [Statement.anchored, stays, flatMap_text_scan]

/--
Blanks, parentheses and comments up to their first closing marks are skipped
before SELECT.
-/
theorem anchored_of_isPrelude {prelude keywords rest : Text}
    (skipped : IsPrelude comment.Holds prelude)
    (select : IsSelect keywords rest) :
    Statement.anchored (prelude ++ (keywords ++ rest)) = keywords ++ rest := by
  induction skipped with
  | nil =>
      rw [List.nil_append]
      exact anchored_of_isSelect select
  | @skipped character others skips more ih =>
      have notMem : character ∉ openers := by
        rcases skips with blank | rfl
        · intro opener
          have solid : ∀ opener ∈ openers, ¬ isBlank opener :=
            Text.forall_mem_of_all (by decide)
          exact solid character opener blank
        · decide
      have begins : Begins (single character) (others ++ (keywords ++ rest)) :=
        .plain (not_opens_of_notMem notMem _)
      apply (Statement.anchored_append begins _).trans ih
      simpa [isSkipped, single] using skips
  | @lineComment words others oneLine newline more ih =>
      have begins : Begins ⟨.lineComment, '-' :: '-' :: words⟩
          (others ++ (keywords ++ rest)) := by
        apply Begins.lineComment oneLine
        rw [List.head?_append, newline]
        intro next same
        exact (Option.some.inj same).symm
      rw [List.append_assoc]
      exact (Statement.anchored_append begins rfl).trans ih
  | @blockComment body others holds more ih =>
      have begins : Begins
          ⟨comment.kind, comment.opening ++ body ++ comment.closing⟩
          (others ++ (keywords ++ rest)) :=
        .closed (by simp [enclosures]) holds trivial
      have whole : '/' :: '*' :: body ++ '*' :: '/' :: others ++
          (keywords ++ rest) =
          comment.opening ++ body ++ comment.closing ++
            (others ++ (keywords ++ rest)) := by
        simp [comment]
      rw [whole]
      exact (Statement.anchored_append begins rfl).trans ih

end LeadingSelect

open LeadingSelect

namespace Statement

/-! ## The clause of a row window -/

/--
A clause stands between what SELECT ends and what is left, unless TOP stands
there.
-/
theorem limited_of_rest?_eq_some {front rest : Text}
    (found : rest? (front ++ rest) = some rest) (window : RowWindow) :
    limited window (front ++ rest) =
      if hasTop rest then front ++ rest
      else front ++ window.clause?.getD [] ++ rest := by
  rw [limited]
  cases window.clause? with
  | none => simp
  | some clause =>
      have taken : (front ++ rest).take
          ((front ++ rest).length - rest.length) = front := by
        simp
      simp only [insertAfterSelect, found, taken, Option.getD_some]

/--
Where SELECT stands at the anchor of a statement, the clause follows it,
unless TOP does.
-/
theorem limited_of_isSelect {statement keywords rest : Text}
    (select : IsSelect keywords rest)
    (stands : anchored statement = keywords ++ rest) (window : RowWindow) :
    limited window statement =
      if hasTop rest then statement
      else prelude statement ++ keywords ++ window.clause?.getD [] ++ rest := by
  have whole := prelude_append_anchored statement
  rw [stands, ← List.append_assoc] at whole
  have found : rest? statement = some rest := by
    apply rest?_of_anchored
    rw [stands]
    exact rest?_of_isSelect select
  have inserted := limited_of_rest?_eq_some (whole ▸ found) window
  rwa [whole] at inserted

theorem limited_of_rest?_eq_none {statement : Text}
    (missing : rest? statement = none) (window : RowWindow) :
    limited window statement = statement := by
  rw [limited]
  cases window.clause? with
  | none => rfl
  | some clause => simp only [insertAfterSelect, missing]

/--
Where SELECT stands at the anchor of a statement, the clause of a row window
follows it and a DISTINCT after it, between two segments, unless TOP stands
there.  Where SELECT does not stand there, the statement is kept, unless it
leads with SELECT once a comment is read past its first closing mark.
-/
theorem limited_at_anchor (window : RowWindow) (statement : Text) :
    let clause := window.clause?.getD []
    (∀ keywords rest, IsSelect keywords rest →
      anchored statement = keywords ++ rest →
        limited window statement =
          (if hasTop rest then statement
            else prelude statement ++ keywords ++ clause ++ rest) ∧
        scan statement =
          (scan statement).takeWhile isSkipped ++ keywords.map single ++
            scan rest) ∧
    ((∀ keywords rest, IsSelect keywords rest →
        anchored statement ≠ keywords ++ rest) →
      ((∀ prelude keywords rest,
          ¬ Misreads statement prelude keywords rest) →
        limited window statement = statement) ∧
      ((∃ prelude keywords rest,
          Misreads statement prelude keywords rest) →
        ∃ prelude keywords rest,
          Misreads statement prelude keywords rest ∧
            limited window statement =
              if hasTop rest then statement
              else prelude ++ keywords ++ clause ++ rest)) := by
  intro clause
  constructor
  · intro keywords rest select stands
    have whole := prelude_append_anchored statement
    rw [stands, ← List.append_assoc] at whole
    have found : rest? statement = some rest := by
      apply rest?_of_anchored
      rw [stands]
      exact rest?_of_isSelect select
    constructor
    · have inserted := limited_of_rest?_eq_some (whole ▸ found) window
      rwa [whole] at inserted
    · have segments := scan_append_of_forall_notMem select.notMem_openers rest
      rw [← stands, scan_anchored] at segments
      rw [List.append_assoc, ← segments, List.takeWhile_append_dropWhile]
  · intro noSelect
    -- Without a comment read too far, SELECT would stand at the anchor.
    have misread {prelude keywords rest : Text}
        (reads : Reads statement prelude keywords rest) :
        Misreads statement prelude keywords rest := by
      refine ⟨reads, fun skipped => ?_⟩
      obtain ⟨rfl, -, select⟩ := reads
      apply noSelect keywords rest select
      rw [List.append_assoc]
      exact anchored_of_isPrelude skipped select
    constructor
    · intro never
      apply limited_of_rest?_eq_none
      cases found : rest? statement with
      | none => rfl
      | some rest =>
          obtain ⟨prelude, keywords, reads⟩ :=
            (tells_outlook statement).outside rest found
          exact absurd (misread reads) (never prelude keywords rest)
    · rintro ⟨_, _, _, ⟨reads, -⟩⟩
      obtain ⟨rest, found⟩ :=
        Option.isSome_iff_exists.1 (isSome_rest?_of_reads reads)
      obtain ⟨prelude, keywords, reads⟩ :=
        (tells_outlook statement).outside rest found
      refine ⟨prelude, keywords, rest, misread reads, ?_⟩
      obtain ⟨rfl, -, -⟩ := reads
      exact limited_of_rest?_eq_some found window

/--
A query with a comment and a parenthesis before it, and DISTINCT after
SELECT.
-/
def queryOfNames : Text :=
  "-- names\n(SELECT DISTINCT name FROM users)".toList

theorem top_after_distinct :
    IsSelect "SELECT DISTINCT".toList " name FROM users)".toList ∧
      anchored queryOfNames = "SELECT DISTINCT name FROM users)".toList ∧
      limited ⟨some 10, none⟩ queryOfNames =
        "-- names\n(SELECT DISTINCT TOP 10 name FROM users)".toList := by
  have distinct : IsDistinct " DISTINCT".toList " name FROM users)".toList := by
    apply @IsDistinct.mk [' '] "DISTINCT".toList
    · decide
    · exact Text.forall_mem_of_all (by decide)
    · decide
    · decide
  have select : IsSelect ("SELECT".toList ++ " DISTINCT".toList)
      " name FROM users)".toList :=
    .distinct rfl distinct
  have stands : anchored queryOfNames =
      "SELECT DISTINCT name FROM users)".toList := by
    decide +kernel
  refine ⟨select, stands, ?_⟩
  have inserted := ((limited_at_anchor ⟨some 10, none⟩ queryOfNames).1 _ _
    select stands).1
  rw [inserted]
  decide +kernel

/--
A statement with a common table expression that leads with SELECT after a
comment.
-/
def reportOfTotals : Text :=
  "/* report */ WITH x AS (/* all */ SELECT a FROM t) SELECT a FROM x".toList

/--
A statement that does not lead with SELECT is not always kept: the comment at
its start is read up to the closing mark of a later one.
-/
theorem not_always_kept_without_select :
    ¬ ∀ (window : RowWindow) (statement : Text),
      (∀ keywords rest, IsSelect keywords rest →
        anchored statement ≠ keywords ++ rest) →
      limited window statement = statement := by
  intro kept
  have changed : limited ⟨some 10, none⟩ reportOfTotals =
      ("/* report */ WITH x AS (/* all */ SELECT TOP 10 a FROM t) " ++
        "SELECT a FROM x").toList := by
    decide +kernel
  rw [kept] at changed
  · exact absurd changed (by decide)
  intro keywords rest select stands
  have first : (anchored reportOfTotals).head? = some 'W' := by
    decide +kernel
  obtain ⟨letter, others, rfl, folds⟩ := select.exists_cons
  rw [stands] at first
  cases first
  exact absurd folds (by decide)

end Statement

end SqlAnywhere
