import SqlAnywhere.Proofs.KeyRestart
import SqlAnywhere.Proofs.QuotedSegment

/-!
# Names in the statement that restarts a counter

The counter of a key column is restarted by a call that takes the names of the
table and of its owner as literals.  A quote in a name is written twice there,
and two quotes are read as one in a literal, so that each name stands in one
segment of the statement, which ends with its own closing quote.  Nothing in
the statement is a placeholder, whatever the names hold.
-/

namespace SqlAnywhere

open Segment

/-! ## Numbers among segments -/

namespace Numeral

/-- The sign of a number opens no comment, since a digit follows it. -/
theorem scan_ofInt_append (number : Int) (after : Text) :
    scan (ofInt number ++ after) = (ofInt number).map single ++ scan after := by
  have inert (magnitude : Nat) : ∀ digit ∈ ofNat magnitude, digit ∉ openers :=
    (calm_ofNat magnitude).notMem_openers
  cases number with
  | ofNat magnitude => exact scan_append_of_forall_notMem (inert _) after
  | negSucc magnitude =>
      have plain : ¬ Opens '-' (ofNat (magnitude + 1) ++ after) := by
        obtain ⟨digit, digits, written⟩ :=
          List.exists_cons_of_ne_nil (ofNat_ne_nil (magnitude + 1))
        have other : digit ∉ openers :=
          inert (magnitude + 1) digit (by rw [written]; exact List.mem_cons_self)
        rw [written, List.cons_append]
        rintro (mark | ⟨-, next⟩ | ⟨slash, -⟩ | ⟨colon, -⟩)
        · exact absurd mark (by decide)
        · cases next
          exact other (by decide)
        · exact absurd slash (by decide)
        · exact absurd colon (by decide)
      rw [ofInt, List.cons_append, scan_cons, cut_of_not_opens plain,
        scan_append_of_forall_notMem (inert _)]
      rfl

end Numeral

namespace Maintenance

/-! ## Names as literals -/

section Literal

variable {after : Text} (other : after.head? ≠ some '\'') (name : Text)

include other

/-- The literal of a name begins a statement in which no quote follows it. -/
theorem begins_nameLiteral :
    Begins ⟨.literal, nameLiteral name⟩ after := by
  have known : quotation .literal '\'' ∈ enclosures := by simp [enclosures]
  exact .closed known ⟨Identifier.unquote name, rfl⟩ other

/--
The segment that begins with the quote which opens a name ends with the one
that closes it.
-/
theorem cut_nameLiteral :
    cut '\'' (Text.doubled '\'' (Identifier.unquote name) ++ '\'' :: after) =
      (⟨.literal, nameLiteral name⟩, after) :=
  cut_of_begins (begins_nameLiteral other name) (by simp [nameLiteral])

theorem scan_nameLiteral_append :
    scan (nameLiteral name ++ after) =
      ⟨.literal, nameLiteral name⟩ :: scan after :=
  scan_append_of_begins (begins_nameLiteral other name)

end Literal

/-! ## The call -/

/-- What follows the names in the call that sets a counter. -/
def callEnd (last : Int64) : Text :=
  ", ".toList ++ Numeral.ofInt64 last ++ ")".toList

/--
The segments of the call that sets the counter of a table: the literals of
the two names, and single characters around them.
-/
def callSegments (owner table : Text) (last : Int64) : List Segment :=
  "CALL sa_reset_identity(".toList.map single ++
    ⟨.literal, nameLiteral table⟩ :: (", ".toList.map single ++
      ⟨.literal, nameLiteral owner⟩ :: (callEnd last).map single)

/-- Nothing begins between the names and the value. -/
theorem notMem_openers_of_mem_separator :
    ∀ character ∈ ", ".toList, character ∉ openers :=
  Text.forall_mem_of_all (by decide)

theorem scan_callEnd (last : Int64) :
    scan (callEnd last) = (callEnd last).map single := by
  have closing : ∀ character ∈ ")".toList, character ∉ openers :=
    Text.forall_mem_of_all (by decide)
  have ends := scan_append_of_forall_notMem closing []
  rw [List.append_nil, scan_nil, List.append_nil] at ends
  rw [callEnd, List.append_assoc,
    scan_append_of_forall_notMem notMem_openers_of_mem_separator,
    Numeral.ofInt64, Numeral.scan_ofInt_append, ends, List.map_append,
    List.map_append]

/-- The call falls into the literals of the names and single characters. -/
theorem scan_call (owner table : Text) (last : Int64) :
    scan ("CALL sa_reset_identity(".toList ++ (nameLiteral table ++
        (", ".toList ++ (nameLiteral owner ++ callEnd last)))) =
      callSegments owner table last := by
  have opening : ∀ character ∈ "CALL sa_reset_identity(".toList,
      character ∉ openers := Text.forall_mem_of_all (by decide)
  have afterTable :
      (", ".toList ++ (nameLiteral owner ++ callEnd last)).head? ≠
        some '\'' := by
    simp
  have afterOwner : (callEnd last).head? ≠ some '\'' := by
    simp [callEnd]
  rw [scan_append_of_forall_notMem opening, scan_nameLiteral_append afterTable,
    scan_append_of_forall_notMem notMem_openers_of_mem_separator,
    scan_nameLiteral_append afterOwner, scan_callEnd]
  rfl

theorem parameter?_of_mem_callSegments {owner table : Text} {last : Int64}
    {segment : Segment} (member : segment ∈ callSegments owner table last) :
    segment.parameter? = none := by
  have plain (text : Text) (member : segment ∈ text.map single) :
      segment.parameter? = none := by
    obtain ⟨character, -, rfl⟩ := List.mem_map.1 member
    rfl
  rcases List.mem_append.1 member with opening | member
  · exact plain _ opening
  rcases List.mem_cons.1 member with rfl | member
  · rfl
  rcases List.mem_append.1 member with comma | member
  · exact plain _ comma
  rcases List.mem_cons.1 member with rfl | ending
  · rfl
  · exact plain _ ending

/--
The call that restarts the counter of a table whose next value is not the
least one, for every name of the table and its owner.  The names stand in it
as literals: the segment that begins with an opening quote ends with the
closing one, and what stands between the two is read as the name without its
brackets.  All else are single characters, and binding leaves the call as it
is.
-/
theorem literals_of_restart (owner table : Text) {next : Int64}
    (above : next ≠ Int64.minValue) :
    let statement := restartKeys owner table .identity next
    ∃ (last : Int64) (inner inner' : Text),
      let afterOwner := ", ".toList ++ Numeral.ofInt64 last ++ ")".toList
      let afterTable :=
        ", ".toList ++ '\'' :: (inner' ++ '\'' :: afterOwner)
      last.toInt + 1 = next.toInt ∧
      statement =
        "CALL sa_reset_identity(".toList ++
          '\'' :: (inner ++ '\'' :: afterTable) ∧
      (Text.undoubled '\'' inner = Identifier.unquote table ∧
        cut '\'' (inner ++ '\'' :: afterTable) =
          (⟨.literal, '\'' :: inner ++ ['\'']⟩, afterTable)) ∧
      (Text.undoubled '\'' inner' = Identifier.unquote owner ∧
        cut '\'' (inner' ++ '\'' :: afterOwner) =
          (⟨.literal, '\'' :: inner' ++ ['\'']⟩, afterOwner)) ∧
      scan statement = callSegments owner table last ∧
      ∀ parameters,
        BoundStatement.bind statement parameters = .ok ⟨statement, []⟩ := by
  intro statement
  have call : statement = "CALL sa_reset_identity(".toList ++
      (nameLiteral table ++
        (", ".toList ++ (nameLiteral owner ++ callEnd (next - 1)))) := by
    simp only [statement, restartKeys_identity, predecessor, if_neg above,
      callEnd, List.append_assoc]
  have segments : scan statement = callSegments owner table (next - 1) := by
    rw [call, scan_call]
  refine ⟨next - 1, Text.doubled '\'' (Identifier.unquote table),
    Text.doubled '\'' (Identifier.unquote owner), ?_⟩
  intro afterOwner afterTable
  refine ⟨toInt_sub_one_add_one above, ?_,
    ⟨Text.undoubled_doubled _ _, cut_nameLiteral (by simp [afterTable]) table⟩,
    ⟨Text.undoubled_doubled _ _, cut_nameLiteral (by simp [afterOwner]) owner⟩,
    segments, ?_⟩
  · rw [call]
    simp [nameLiteral, afterTable, afterOwner, callEnd]
  · intro parameters
    have copied := BoundStatement.ofSegments_of_copied parameters
      fun segment => @parameter?_of_mem_callSegments owner table (next - 1)
        segment
    rw [BoundStatement.bind, segments, copied, ← segments,
      Statement.textOf_scan]
    rfl

/--
Quotes at the start, in the middle and in pairs, and a name with a colon.
-/
theorem quoted_names_restarted :
    let owner := "['dba]".toList
    let table := "O''Brien's :id".toList
    let statement :=
      "CALL sa_reset_identity('O''''Brien''s :id', '''dba', -1)".toList
    restartKeys owner table .identity 0 = statement ∧
      (∃ inner rest,
        statement =
            "CALL sa_reset_identity(".toList ++
              '\'' :: (inner ++ '\'' :: rest) ∧
          Text.undoubled '\'' inner = table ∧
          cut '\'' (inner ++ '\'' :: rest) =
            (⟨.literal, '\'' :: inner ++ ['\'']⟩, rest)) ∧
      BoundStatement.bind statement [("id".toList, "5".toList)] =
        .ok ⟨statement, []⟩ := by
  intro owner table statement
  have written : restartKeys owner table .identity 0 = statement := by
    decide +kernel
  obtain ⟨last, inner, inner', -, shape, ⟨read, ends⟩, -, -, copied⟩ :=
    literals_of_restart owner table
      (show (0 : Int64) ≠ Int64.minValue by decide)
  rw [written] at shape copied
  exact ⟨written, ⟨inner, _, shape, read.trans (by decide), ends⟩, copied _⟩

end Maintenance

end SqlAnywhere
