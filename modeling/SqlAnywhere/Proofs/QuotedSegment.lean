import SqlAnywhere.Proofs.AppendedText
import SqlAnywhere.Proofs.Bracketed

/-!
# Quoted names in a statement

A statement names a table between brackets, and is scanned for placeholders
later.  The bracket that closes a name is never written twice: neither is it
when a name is quoted, nor is it read as two when a statement is scanned, so
that a name between brackets ends at the first one.  A name without such a
bracket is one segment when it is quoted, whatever else it holds, and binding
copies it; what follows the first such bracket in a name stands in the
statement itself.
-/

namespace SqlAnywhere

open Segment

/-! ## Texts with segments of their own -/

namespace Segment

/-- Whether a text falls into segments, whatever follows it. -/
def ScansAs (text : Text) (segments : List Segment) : Prop :=
  ∀ after, scan (text ++ after) = segments ++ scan after

/-- A text that is one name between brackets, whatever follows it. -/
def IsWholeName (text : Text) : Prop :=
  ScansAs text [⟨.bracketedName, text⟩]

namespace ScansAs

variable {text text' : Text} {segments segments' : List Segment}

theorem append (scans : ScansAs text segments)
    (scans' : ScansAs text' segments') :
    ScansAs (text ++ text') (segments ++ segments') := by
  intro after
  rw [List.append_assoc, scans, scans', List.append_assoc]

/-- The segments of a text make it up. -/
theorem textOf_eq (scans : ScansAs text segments) :
    Statement.textOf segments = text := by
  have alone := scans []
  rw [List.append_nil, scan_nil, List.append_nil] at alone
  rw [← alone, Statement.textOf_scan]

/-- A single character that opens nothing. -/
theorem single {character : Char} (inert : character ∉ openers) :
    ScansAs [character] [single character] :=
  scan_append_of_forall_notMem (by simpa using inert)

/-- Names between brackets with dots between them. -/
theorem intercalate_dot {names : List Text}
    (whole : ∀ name ∈ names, IsWholeName name) :
    ScansAs (['.'].intercalate names)
      ((names.map fun name => ⟨.bracketedName, name⟩).intersperse
        (Segment.single '.')) := by
  induction names with
  | nil => exact fun _ => rfl
  | cons name names ih =>
      obtain ⟨first, others⟩ := List.forall_mem_cons.1 whole
      cases names with
      | nil =>
          rw [List.intercalate_singleton]
          exact first
      | cons second names =>
          have dot : ScansAs ['.'] [Segment.single '.'] :=
            ScansAs.single (by decide)
          rw [List.intercalate_cons_cons]
          exact (first.append dot).append (ih others)

end ScansAs

/--
What is left of a decomposition decomposes what is left of the statement.
-/
theorem Decomposes.of_append {statement : Text} {before after : List Segment}
    (decomposes : Decomposes statement (before ++ after)) :
    ∃ rest, statement = Statement.textOf before ++ rest ∧
      Decomposes rest after := by
  induction before generalizing statement with
  | nil => exact ⟨statement, rfl, decomposes⟩
  | cons segment before ih =>
      cases decomposes with
      | cons begins others =>
          obtain ⟨rest, rfl, decomposes⟩ := ih others
          exact ⟨rest, by simp, decomposes⟩

/--
Where a text begins with a segment of its own, its segments follow those
before it.
-/
theorem scan_of_beginsOutside {front back : Text}
    (outside : Statement.BeginsOutside front back) :
    ∃ before, Statement.textOf before = front ∧
      scan (front ++ back) = before ++ scan back := by
  obtain ⟨before, after, segments, rfl⟩ := outside
  have all := decomposes_scan (Statement.textOf before ++ back)
  rw [segments] at all
  obtain ⟨rest, whole, decomposes⟩ := all.of_append
  rw [← List.append_cancel_left whole] at decomposes
  exact ⟨before, rfl, by rw [segments, (decomposes_iff _ _).1 decomposes]⟩

/-- Each segment of a statement begins what the statement is from there on. -/
theorem exists_begins_of_mem_scan {statement : Text} {segment : Segment}
    (member : segment ∈ scan statement) : ∃ rest, Begins segment rest := by
  induction statement using induction_on_segments with
  | nil => simp at member
  | segment first rest begins ih =>
      rw [scan_append_of_begins begins, List.mem_cons] at member
      rcases member with rfl | member
      · exact ⟨rest, begins⟩
      · exact ih member

end Segment

/-! ## Binding around such texts -/

namespace BoundStatement

theorem ofSegments_append (parameters : List Parameter)
    (segments others : List Segment) :
    ofSegments parameters (segments ++ others) = do
      let front ← ofSegments parameters segments
      let back ← ofSegments parameters others
      return ⟨front.text ++ back.text, front.values ++ back.values⟩ := by
  induction segments with
  | nil =>
      rw [List.nil_append]
      cases ofSegments parameters others <;> rfl
  | cons segment segments ih =>
      rw [List.cons_append, ofSegments, ofSegments, ih]
      cases segment.parameter? with
      | none => simp
      | some wanted =>
          cases given : Parameter.value? parameters wanted with
          | none =>
              simp only [given]
              rfl
          | some value => simp [given]

/-- Segments without placeholders are copied. -/
theorem ofSegments_of_copied (parameters : List Parameter)
    {segments : List Segment}
    (copied : ∀ segment ∈ segments, segment.parameter? = none) :
    ofSegments parameters segments = pure ⟨Statement.textOf segments, []⟩ := by
  induction segments with
  | nil => rfl
  | cons segment segments ih =>
      obtain ⟨first, others⟩ := List.forall_mem_cons.1 copied
      rw [ofSegments, first, ih others]
      rfl

/--
A text that binding copies without a value, wherever it begins outside of
other segments.
-/
def IsCopied (text : Text) : Prop :=
  ∀ before after, Statement.BeginsOutside before (text ++ after) →
    ∃ segments, Statement.textOf segments = before ∧
      ∀ parameters,
        bind (before ++ (text ++ after)) parameters = do
          let front ← ofSegments parameters segments
          let back ← bind after parameters
          return ⟨front.text ++ (text ++ back.text),
            front.values ++ back.values⟩

/-- What falls into segments without placeholders is copied. -/
theorem isCopied_of_scansAs {text : Text} {segments : List Segment}
    (scans : ScansAs text segments)
    (copied : ∀ segment ∈ segments, segment.parameter? = none) :
    IsCopied text := by
  intro before after outside
  obtain ⟨front, whole, segmented⟩ := scan_of_beginsOutside outside
  refine ⟨front, whole, ?_⟩
  intro parameters
  rw [bind, segmented, scans after, ofSegments_append, ofSegments_append,
    ofSegments_of_copied parameters copied, scans.textOf_eq, bind]
  simp

end BoundStatement

/-! ## Quoted names -/

namespace Identifier

section Brackets

variable {name : Text}

theorem brackets_mem_enclosures : brackets ∈ enclosures :=
  mem_enclosures_iff.2 (.inr (.inr (.inl rfl)))

/--
A name between brackets that begins a statement holds no bracket that closes
it earlier.
-/
theorem notMem_of_begins_bracketed {rest : Text}
    (begins : Begins ⟨.bracketedName, bracketed name⟩ rest) : ']' ∉ name := by
  generalize segmented :
    (⟨.bracketedName, bracketed name⟩ : Segment) = segment at begins
  have enclosed {enclosure : Enclosure} (known : enclosure ∈ enclosures)
      (kind : SegmentKind.bracketedName = enclosure.kind) :
      enclosure = brackets :=
    Statement.enclosure_eq_of_kind_eq known brackets_mem_enclosures kind.symm
  cases begins with
  | @closed _ body _ known holds =>
      obtain rfl := enclosed known (congrArg Segment.kind segmented)
      have same : name = body := by
        simpa [brackets, bracketed] using segmented
      rw [same]
      exact holds
  | @unclosed _ body known holds =>
      obtain rfl := enclosed known (congrArg Segment.kind segmented)
      have same : name ++ [']'] = body := by
        simpa [brackets, bracketed] using segmented
      exact absurd (by simp [← same]) holds
  | lineComment | doubleColon | placeholder | plain => cases segmented

/--
A name between brackets is one segment exactly if it holds no bracket that
closes it.
-/
theorem isWholeName_bracketed_iff :
    IsWholeName (bracketed name) ↔ ']' ∉ name := by
  constructor
  · intro whole
    have alone := whole []
    rw [List.append_nil] at alone
    have member : ⟨.bracketedName, bracketed name⟩ ∈ scan (bracketed name) := by
      rw [alone]
      exact List.mem_cons_self
    obtain ⟨rest, begins⟩ := exists_begins_of_mem_scan member
    exact notMem_of_begins_bracketed begins
  · intro unclosed after
    exact scan_append_of_begins
      (.closed brackets_mem_enclosures unclosed trivial)

/--
What follows the first bracket that closes a name stands in the statement
itself.
-/
theorem scan_bracketed_append {inner rest : Text} (unclosed : ']' ∉ inner)
    (after : Text) :
    scan (bracketed (inner ++ ']' :: rest) ++ after) =
      ⟨.bracketedName, bracketed inner⟩ :: scan (rest ++ ']' :: after) := by
  have whole := isWholeName_bracketed_iff.2 unclosed (rest ++ ']' :: after)
  have shape : bracketed (inner ++ ']' :: rest) ++ after =
      bracketed inner ++ (rest ++ ']' :: after) := by
    simp [bracketed]
  rw [shape, whole]
  rfl

end Brackets

section Parts

variable {name part : Text}

/--
The segments of a quoted name of a table: its parts between brackets, with
dots between them.
-/
def partSegments (name : Text) : List Segment :=
  ((name.splitOn '.').map fun part =>
    ⟨.bracketedName, quote part⟩).intersperse (Segment.single '.')

theorem parameter?_of_mem_intersperse {segments : List Segment}
    {separator segment : Segment}
    (plain : separator.parameter? = none)
    (others : ∀ segment ∈ segments, segment.parameter? = none)
    (member : segment ∈ segments.intersperse separator) :
    segment.parameter? = none := by
  induction segments with
  | nil => cases member
  | cons first rest ih =>
      obtain ⟨plain', others'⟩ := List.forall_mem_cons.1 others
      cases rest with
      | nil => rwa [List.mem_singleton.1 member]
      | cons second rest =>
          rw [List.intersperse_cons_cons, List.mem_cons,
            List.mem_cons] at member
          rcases member with rfl | rfl | member
          · exact plain'
          · exact plain
          · exact ih others' member

/--
A part of a name is one segment when it is quoted, if it holds no bracket
that closes it.
-/
theorem isWholeName_quote_part_iff (plain : '[' ∉ name)
    (member : part ∈ name.splitOn '.') :
    IsWholeName (quote part) ↔ ']' ∉ part := by
  have plain' : '[' ∉ part :=
    fun opening => plain ((Text.part_of_mem_splitOn member).1 opening)
  rw [quote_of_notMem plain', isWholeName_bracketed_iff]

/-- A quoted name of a table falls into its parts. -/
theorem scansAs_quoteTable (plain : '[' ∉ name) (unclosed : ']' ∉ name)
    (literal : '(' ∉ name) :
    ScansAs (quoteTable name) (partSegments name) := by
  have whole : ∀ quoted ∈ (name.splitOn '.').map quote, IsWholeName quoted := by
    intro quoted member
    obtain ⟨part, listed, rfl⟩ := List.mem_map.1 member
    refine (isWholeName_quote_part_iff plain listed).2 fun closing => ?_
    exact unclosed ((Text.part_of_mem_splitOn listed).1 closing)
  have scans := ScansAs.intercalate_dot whole
  rw [List.map_map] at scans
  rw [quoteTable, if_neg literal]
  exact scans

/-- A quoted name of a table holds no placeholder. -/
theorem parameter?_of_mem_partSegments {segment : Segment}
    (member : segment ∈ partSegments name) : segment.parameter? = none := by
  refine parameter?_of_mem_intersperse rfl ?_ member
  intro named listed
  obtain ⟨part, -, rfl⟩ := List.mem_map.1 listed
  rfl

end Parts

open BoundStatement

/--
Quoted names in a statement, for names without an opening bracket.  A name is
one segment exactly if no bracket closes it earlier, and then binding copies
it; otherwise the segment ends at that bracket, and the rest of the name
stands in the statement.  The parts of a quoted name of a table are segments
under the same condition.
-/
theorem quoted_segment {name : Text} (plain : '[' ∉ name) :
    (IsWholeName (quote name) ↔ ']' ∉ name) ∧
    (']' ∉ name → IsCopied (quote name)) ∧
    (∀ inner rest after, name = inner ++ ']' :: rest → ']' ∉ inner →
      scan (quote name ++ after) =
        ⟨.bracketedName, quote inner⟩ :: scan (rest ++ ']' :: after)) ∧
    ('(' ∉ name →
      (quoteTable name).splitOn '.' = (name.splitOn '.').map quote ∧
      (∀ part ∈ name.splitOn '.', IsWholeName (quote part) ↔ ']' ∉ part) ∧
      (']' ∉ name →
        ScansAs (quoteTable name) (partSegments name) ∧
          IsCopied (quoteTable name))) := by
  have quoted := quote_of_notMem plain
  refine ⟨?_, ?_, ?_, ?_⟩
  · rw [quoted]
    exact isWholeName_bracketed_iff
  · intro unclosed
    rw [quoted]
    refine isCopied_of_scansAs (isWholeName_bracketed_iff.2 unclosed) ?_
    simp [parameter?]
  · rintro inner rest after rfl unclosed
    have plain' : '[' ∉ inner :=
      fun opening => plain (List.mem_append_left _ opening)
    rw [quoted, quote_of_notMem plain', scan_bracketed_append unclosed]
  · intro literal
    refine ⟨splitOn_quoteTable literal,
      fun part => isWholeName_quote_part_iff plain, ?_⟩
    intro unclosed
    have scans := scansAs_quoteTable plain unclosed literal
    exact ⟨scans, isCopied_of_scansAs scans
      fun segment => parameter?_of_mem_partSegments⟩

/-- Marks that open and close other segments are copied in a quoted name. -/
theorem quoted_marks :
    IsWholeName "[dba.o'neil -- /*:all]".toList ∧
      IsCopied "[dba.o'neil -- /*:all]".toList ∧
      IsCopied "[dba].[o'neil -- /*:all]".toList := by
  let name := "dba.o'neil -- /*:all".toList
  obtain ⟨whole, copied, -, parts⟩ :=
    quoted_segment (show '[' ∉ name by decide)
  obtain ⟨-, -, table⟩ := parts (by decide)
  have quoted : quote name = "[dba.o'neil -- /*:all]".toList := by decide
  have quoted' : quoteTable name = "[dba].[o'neil -- /*:all]".toList := by
    decide
  rw [quoted] at whole copied
  rw [quoted'] at table
  exact ⟨whole.2 (by decide), copied (by decide), (table (by decide)).2⟩

/-- A placeholder after a bracket that closes the name is bound. -/
theorem closed_name_binds :
    let name := "a]:x".toList
    ('[' ∉ name ∧ '(' ∉ name) ∧
      quote name = "[a]:x]".toList ∧ quoteTable name = "[a]:x]".toList ∧
      ¬ IsWholeName (quote name) ∧
      BoundStatement.bind (quote name) [] =
        .error (.unboundParameter "x".toList) ∧
      BoundStatement.bind (quote name) [("x".toList, "5".toList)] =
        .ok ⟨"[a]?]".toList, ["5".toList]⟩ := by
  intro name
  have segments : scan (quote name) =
      [⟨.bracketedName, "[a]".toList⟩, ⟨.placeholder, ":x".toList⟩,
        ⟨.plain, "]".toList⟩] := by
    decide +kernel
  refine ⟨by decide, by decide, by decide, ?_, ?_, ?_⟩
  · intro whole
    have alone := whole []
    rw [List.append_nil, segments] at alone
    exact absurd alone (by simp)
  · rw [BoundStatement.bind, segments]
    rfl
  · rw [BoundStatement.bind, segments]
    rfl

end Identifier

end SqlAnywhere
