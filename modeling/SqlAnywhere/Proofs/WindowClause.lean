import SqlAnywhere.Proofs.SelectAnchor

/-!
# The clause of a row window

A window with a limit or with an offset above zero has a clause: TOP with the
limit or with ALL, and START AT with the position after the offset, which is
at most the greatest number of 64 bits.

The clause stands in a limited statement right before what followed SELECT or
DISTINCT.  A word ended there, so that no word character follows the number
that the clause ends with.  Any other character can follow it, and then no
blank stands between the two.
-/

namespace SqlAnywhere

open LeadingSelect

namespace RowWindow

/-! ## How a window is written -/

/-- The clauses that windows are written as. -/
inductive IsClause : RowWindow → Text → Prop where
  | limit {limit : UInt64} {offset : Option UInt64}
      (fromStart : ∀ skipped ∈ offset, skipped = 0) :
      IsClause ⟨some limit, offset⟩
        (" TOP ".toList ++ Numeral.ofNat limit.toNat)
  | limitAndOffset {limit offset : UInt64} (later : 0 < offset) :
      IsClause ⟨some limit, some offset⟩
        (" TOP ".toList ++ Numeral.ofNat limit.toNat ++ " START AT ".toList ++
          Numeral.ofNat (min (offset.toNat + 1) (UInt64.size - 1)))
  | offset {offset : UInt64} (later : 0 < offset) :
      IsClause ⟨none, some offset⟩
        (" TOP ALL START AT ".toList ++
          Numeral.ofNat (min (offset.toNat + 1) (UInt64.size - 1)))

theorem startClause_of_pos {offset : UInt64} (later : 0 < offset) :
    startClause (some offset) =
      some (" START AT ".toList ++
        Numeral.ofNat (min (offset.toNat + 1) (UInt64.size - 1))) := by
  rw [startClause, Option.filter_some, if_pos (decide_eq_true later)]
  rfl

theorem startClause_eq_none_iff {offset : Option UInt64} :
    startClause offset = none ↔ ∀ skipped ∈ offset, skipped = 0 := by
  rw [startClause, Option.map_eq_none_iff, Option.filter_eq_none_iff]
  simp [UInt64.pos_iff_ne_zero]

/-- An offset is none, or the rows start after it. -/
theorem fromStart_or_later (offset : Option UInt64) :
    (∀ skipped ∈ offset, skipped = 0) ∨
      ∃ skipped, offset = some skipped ∧ 0 < skipped := by
  cases offset with
  | none => exact .inl nofun
  | some skipped =>
      by_cases later : 0 < skipped
      · exact .inr ⟨skipped, rfl, later⟩
      · left
        rintro _ ⟨⟩
        simpa using later

/-- Without an offset a window is written as its limit. -/
theorem clause?_of_fromStart {offset : Option UInt64}
    (fromStart : ∀ skipped ∈ offset, skipped = 0) (limit : Option UInt64) :
    clause? ⟨limit, offset⟩ =
      limit.map fun limit => " TOP ".toList ++ Numeral.ofNat limit.toNat := by
  cases limit <;> simp [clause?, startClause_eq_none_iff.2 fromStart]

/--
With an offset a window is written as its limit, or ALL, and the start after
the offset.
-/
theorem clause?_of_later {offset : UInt64} (later : 0 < offset)
    (limit : Option UInt64) :
    clause? ⟨limit, some offset⟩ =
      some (" TOP ".toList ++
        (limit.map fun limit => Numeral.ofNat limit.toNat).getD "ALL".toList ++
        " START AT ".toList ++
        Numeral.ofNat (min (offset.toNat + 1) (UInt64.size - 1))) := by
  cases limit <;> simp [clause?, startClause_of_pos later]

/-- A window is written as its clause, if it has one. -/
theorem clause?_eq_some_iff {window : RowWindow} {clause : Text} :
    window.clause? = some clause ↔ IsClause window clause := by
  constructor
  · intro written
    obtain ⟨limit, offset⟩ := window
    rcases fromStart_or_later offset with fromStart | ⟨skipped, rfl, later⟩
    · rw [clause?_of_fromStart fromStart] at written
      obtain ⟨limit, rfl, rfl⟩ := Option.map_eq_some_iff.1 written
      exact .limit fromStart
    · rw [clause?_of_later later] at written
      cases limit with
      | none =>
          cases written
          exact .offset later
      | some limit =>
          cases written
          exact .limitAndOffset later
  · intro isClause
    cases isClause with
    | limit fromStart => rw [clause?_of_fromStart fromStart, Option.map_some]
    | limitAndOffset later => rw [clause?_of_later later]; rfl
    | offset later => rw [clause?_of_later later]; rfl

/-- A window has a clause if it has a limit, or an offset above zero. -/
theorem isSome_clause?_iff {window : RowWindow} :
    window.clause?.isSome ↔
      window.limit.isSome ∨ ∃ offset ∈ window.offset, 0 < offset := by
  obtain ⟨limit, offset⟩ := window
  rcases fromStart_or_later offset with fromStart | ⟨skipped, rfl, later⟩
  · have never : ¬ ∃ skipped ∈ offset, 0 < skipped := by
      rintro ⟨skipped, wanted, later⟩
      rw [fromStart skipped wanted] at later
      exact absurd later (by decide)
    rw [clause?_of_fromStart fromStart, Option.isSome_map, or_iff_left never]
  · rw [clause?_of_later later]
    exact iff_of_true rfl (.inr ⟨skipped, rfl, later⟩)

/-- A clause begins with TOP. -/
theorem IsClause.exists_eq_top {window : RowWindow} {clause : Text}
    (isClause : IsClause window clause) :
    ∃ others, clause = " TOP ".toList ++ others := by
  cases isClause with
  | limit => exact ⟨_, rfl⟩
  | limitAndOffset =>
      rw [List.append_assoc, List.append_assoc]
      exact ⟨_, rfl⟩
  | @offset offset later =>
      exact ⟨"ALL START AT ".toList ++
        Numeral.ofNat (min (offset.toNat + 1) (UInt64.size - 1)), rfl⟩

/-- The last word of a clause is a number. -/
theorem IsClause.exists_eq_number {window : RowWindow} {clause : Text}
    (isClause : IsClause window clause) :
    ∃ words number, clause = words ++ Numeral.ofNat number ∧
      words.getLast? = some ' ' := by
  cases isClause with
  | limit => exact ⟨_, _, rfl, rfl⟩
  | limitAndOffset => exact ⟨_, _, rfl, List.getLast?_append⟩
  | offset => exact ⟨_, _, rfl, rfl⟩

end RowWindow

open RowWindow

namespace LeadingSelect

/-! ## Marks after SELECT -/

/-- No TOP begins with a mark. -/
theorem hasTop_cons_of_mark {mark : Char} (solid : ¬ isBlank mark)
    (outside : ¬ isWordCharacter mark) (others : Text) :
    hasTop (mark :: others) = false := by
  have nothing : afterKeyword? "top".toList
      (Text.trimStart (mark :: others)) = none :=
    afterKeyword?_trimStart_of_mark (by decide) solid outside _ others
  rw [hasTop, nothing]
  rfl

/-- SELECT is all that leads a query in which a mark follows it. -/
theorem isSelect_of_mark {word : Text}
    (spells : Text.Spells word "select".toList) {mark : Char}
    (solid : ¬ isBlank mark) (outside : ¬ isWordCharacter mark)
    (others : Text) : IsSelect word (mark :: others) := by
  apply isSelect_of_afterKeyword?_eq_none spells
  · simpa [Text.endsWord] using outside
  · exact afterKeyword?_trimStart_of_mark (by decide) solid outside _ others

end LeadingSelect

namespace Statement

/-! ## What follows the clause -/

/--
A statement that is not kept has the clause where it leads with SELECT,
unless TOP stands there.
-/
theorem exists_reads_of_limited_ne {window : RowWindow} {statement : Text}
    (changed : limited window statement ≠ statement) :
    ∃ prelude keywords clause rest,
      Reads statement prelude keywords rest ∧ IsClause window clause ∧
        ¬ hasTop rest ∧
        limited window statement = prelude ++ keywords ++ clause ++ rest := by
  cases written : window.clause? with
  | none =>
      have kept : limited window statement = statement := by
        rw [limited, written]
      exact absurd kept changed
  | some clause =>
      cases found : rest? statement with
      | none => exact absurd (limited_of_rest?_eq_none found window) changed
      | some rest =>
          obtain ⟨prelude, keywords, reads⟩ :=
            (tells_outlook statement).outside rest found
          have whole := reads.1
          have inserted := limited_of_rest?_eq_some (whole ▸ found) window
          rw [written, Option.getD_some, ← whole] at inserted
          split at inserted
          · exact absurd inserted changed
          · next noTop =>
              exact ⟨prelude, keywords, clause, rest, reads,
                clause?_eq_some_iff.1 written, noTop, inserted⟩

/--
The clause of a window stands in a limited statement right before what
followed SELECT or DISTINCT.  No word character follows it, so that the
number at its end is a word of its own.  But every other character that
follows SELECT or DISTINCT at the anchor of a statement also follows the
clause, and if it is no blank then nothing sets the number apart from it.
-/
theorem clause_before_what_followed (window : RowWindow) :
    (∀ statement, limited window statement ≠ statement →
      ∃ prelude keywords clause rest,
        Reads statement prelude keywords rest ∧ IsClause window clause ∧
          limited window statement = prelude ++ keywords ++ clause ++ rest ∧
          (∀ next ∈ rest.head?, ¬ isWordCharacter next) ∧
          ∃ words number,
            clause = words ++ Numeral.ofNat number ∧
              words.getLast? = some ' ' ∧
              (Numeral.ofNat number ++ rest).takeWhile isWordCharacter =
                Numeral.ofNat number) ∧
    ∀ statement keywords clause next others,
      IsSelect keywords (next :: others) →
      anchored statement = keywords ++ next :: others →
      IsClause window clause → ¬ isBlank next →
        limited window statement =
          prelude statement ++ keywords ++ clause ++ next :: others := by
  constructor
  · intro statement changed
    obtain ⟨prelude, keywords, clause, rest, reads, isClause, -, inserted⟩ :=
      exists_reads_of_limited_ne changed
    have ends : ∀ next ∈ rest.head?, ¬ isWordCharacter next := by
      obtain ⟨-, -, select⟩ := reads
      exact Text.endsWord_iff.1 select.ends
    obtain ⟨words, number, parts, blank⟩ := isClause.exists_eq_number
    refine ⟨prelude, keywords, clause, rest, reads, isClause, inserted, ends,
      words, number, parts, blank, ?_⟩
    have digits : ∀ digit ∈ Numeral.ofNat number, isWordCharacter digit :=
      fun _ member => isWordCharacter_of_isDigit
        (Numeral.isDigit_of_mem_ofNat member)
    exact congrArg Prod.fst (Segment.cutWhile_of_all digits ends)
  · intro statement keywords clause next others select stands isClause solid
    have outside := Text.endsWord_iff.1 select.ends next rfl
    rw [limited_of_isSelect select stands,
      hasTop_cons_of_mark solid outside, clause?_eq_some_iff.2 isClause]
    rfl

/-- A page of a query, and one of a query with a bracket right after SELECT. -/
theorem clause_before_bracket :
    let window : RowWindow := ⟨some 10, some 5⟩
    let query := "SELECT DISTINCT name FROM users".toList
    let bracketed := "(SELECT[name] FROM users)".toList
    (limited window query ≠ query ∧
      ∃ prelude keywords clause rest,
        Reads query prelude keywords rest ∧ IsClause window clause ∧
          limited window query = prelude ++ keywords ++ clause ++ rest ∧
          ∀ next ∈ rest.head?, ¬ isWordCharacter next) ∧
    IsSelect "SELECT".toList "[name] FROM users)".toList ∧
      anchored bracketed = "SELECT[name] FROM users)".toList ∧
      IsClause window " TOP 10 START AT 6".toList ∧ ¬ isBlank '[' ∧
      limited window bracketed =
        "(SELECT TOP 10 START AT 6[name] FROM users)".toList := by
  intro window query bracketed
  have changed : limited window query ≠ query := by decide +kernel
  have select : IsSelect "SELECT".toList ('[' :: "name] FROM users)".toList) :=
    isSelect_of_mark (by decide) (by decide) (by decide) _
  have stands : anchored bracketed = "SELECT[name] FROM users)".toList := by
    decide +kernel
  have isClause : IsClause window " TOP 10 START AT 6".toList :=
    clause?_eq_some_iff.1 (by decide)
  obtain ⟨changes, marks⟩ := clause_before_what_followed window
  obtain ⟨prelude, keywords, clause, rest, reads, written, inserted, ends, -⟩ :=
    changes query changed
  refine ⟨⟨changed, prelude, keywords, clause, rest, reads, written, inserted,
    ends⟩, select, stands, isClause, by decide, ?_⟩
  rw [marks bracketed _ _ _ _ select stands isClause (by decide)]
  decide +kernel

/--
A clause is not always set apart from what follows it: a limit of 10 before a
number that begins with its decimal point is written as 10.5.
-/
theorem not_always_set_apart :
    ¬ ∀ (window : RowWindow) (statement : Text),
      limited window statement ≠ statement →
      ∃ front clause rest,
        statement = front ++ rest ∧ IsClause window clause ∧
          limited window statement = front ++ clause ++ rest ∧
          ∀ next ∈ rest.head?, isBlank next := by
  intro apart
  have inserted : limited ⟨some 10, none⟩ "SELECT.5 FROM t".toList =
      "SELECT TOP 10.5 FROM t".toList := by
    decide +kernel
  have changed : limited ⟨some 10, none⟩ "SELECT.5 FROM t".toList ≠
      "SELECT.5 FROM t".toList := by
    rw [inserted]
    decide
  obtain ⟨front, clause, rest, whole, isClause, inserted', blank⟩ :=
    apart _ _ changed
  obtain rfl : clause = " TOP 10".toList := by
    have written := clause?_eq_some_iff.2 isClause
    exact (Option.some.inj written).symm
  rw [inserted] at inserted'
  -- Only between SELECT and the point does the clause give the limited text.
  have places : ∀ place ≤ 15,
      "SELECT TOP 10.5 FROM t".toList =
        "SELECT.5 FROM t".toList.take place ++ " TOP 10".toList ++
          "SELECT.5 FROM t".toList.drop place →
      place = 6 := by
    decide
  have parted : "SELECT.5 FROM t".toList.take front.length = front ∧
      "SELECT.5 FROM t".toList.drop front.length = rest := by
    rw [whole]
    simp
  have short : front.length ≤ 15 := by
    have lengths : 15 = (front ++ rest).length := congrArg List.length whole
    rw [List.length_append] at lengths
    omega
  have place : front.length = 6 := by
    apply places front.length short
    rw [parted.1, parted.2, inserted']
  rw [place] at parted
  have point : rest.head? = some '.' := by
    rw [← parted.2]
    rfl
  exact absurd (blank '.' point) (by decide)

end Statement

end SqlAnywhere
