import SqlAnywhere.Proofs.Trimming
import SqlAnywhere.Proofs.WindowClause

/-!
# Keywords apart from each other

Blanks and comments can stand between SELECT and the keywords DISTINCT and TOP
after it.  Only across blanks are the two found.  A comment hides them: a TOP
that a comment stands before is not respected, and a DISTINCT that a comment
stands before comes after the clause.
-/

namespace SqlAnywhere

open Segment Text

namespace LeadingSelect

/-! ## Blanks and comments between keywords -/

/-- Blanks and comments in a row. -/
inductive IsGap : Text → Prop where
  | nil : IsGap []
  | blank {character : Char} {others : Text} (blank : isBlank character)
      (more : IsGap others) : IsGap (character :: others)
  | lineComment {words others : Text}
      (oneLine : '\n' ∉ words) (newline : others.head? = some '\n')
      (more : IsGap others) : IsGap ('-' :: '-' :: words ++ others)
  | blockComment {body others : Text} (holds : comment.Holds body)
      (more : IsGap others) :
      IsGap ('/' :: '*' :: body ++ '*' :: '/' :: others)

/-- Blanks alone are a gap. -/
theorem isGap_of_isBlankText {blanks : Text} (blank : IsBlankText blanks) :
    IsGap blanks := by
  induction blanks with
  | nil => exact .nil
  | cons character others ih =>
      obtain ⟨first, later⟩ := List.forall_mem_cons.1 blank
      exact .blank first (ih later)

/-- A comment without stars of its own, with a blank on each side. -/
theorem isGap_of_star_notMem (body : Text) (starless : '*' ∉ body) :
    IsGap (" /*".toList ++ body ++ "*/ ".toList) := by
  have holds : comment.Holds body :=
    fun closing => starless (closing.subset List.mem_cons_self)
  exact .blank (by decide)
    (.blockComment holds (.blank (by decide) .nil))

/-- A keyword that blanks and comments set apart from what stands before it. -/
structure Follows (keyword gap word rest : Text) : Prop where
  isGap : IsGap gap
  present : gap ≠ []
  spells : Spells word keyword
  ends : endsWord rest

/-- The first comment of a gap begins with a mark that belongs to no word. -/
theorem IsGap.isBlankText_or {gap : Text} (isGap : IsGap gap) :
    IsBlankText gap ∨
      ∃ blanks mark others, gap = blanks ++ mark :: others ∧
        IsBlankText blanks ∧ ¬ isBlank mark ∧ ¬ isWordCharacter mark := by
  induction isGap with
  | nil => exact .inl nofun
  | @blank character others blank more ih =>
      rcases ih with blanks | ⟨blanks, mark, later, rfl, allBlank, marks⟩
      · exact .inl (List.forall_mem_cons.2 ⟨blank, blanks⟩)
      · exact .inr ⟨character :: blanks, mark, later, rfl,
          List.forall_mem_cons.2 ⟨blank, allBlank⟩, marks⟩
  | lineComment =>
      exact .inr ⟨[], '-', _, rfl, nofun, by decide, by decide⟩
  | blockComment =>
      exact .inr ⟨[], '/', _, rfl, nofun, by decide, by decide⟩

/-- A word ends before a gap. -/
theorem IsGap.endsWord_append {gap : Text} (isGap : IsGap gap)
    (present : gap ≠ []) (text : Text) : endsWord (gap ++ text) := by
  cases isGap with
  | nil => exact absurd rfl present
  | @blank character _ blank _ =>
      simpa [endsWord] using (folds_and_ends_of_isBlank blank).2
  | lineComment => rfl
  | blockComment => rfl

section Keywords

variable {letter : Char} {letters : Text} (lower : letter.isLower)
include lower

/-- No keyword is found behind a comment. -/
theorem afterKeyword?_gap_of_not_isBlankText {gap : Text} (isGap : IsGap gap)
    (commented : ¬ IsBlankText gap) (text : Text) :
    afterKeyword? (letter :: letters) (trimStart (gap ++ text)) = none := by
  rcases isGap.isBlankText_or with
    blanks | ⟨blanks, mark, others, rfl, allBlank, solid, outside⟩
  · exact absurd blanks commented
  · rw [List.append_assoc, trimStart_append_of_isBlankText allBlank]
    exact afterKeyword?_trimStart_of_mark lower solid outside _ _

/-- A keyword is found behind blanks. -/
theorem Follows.afterKeyword?_eq {gap word rest : Text}
    (follows : Follows (letter :: letters) gap word rest)
    (blanks : IsBlankText gap) :
    afterKeyword? (letter :: letters) (trimStart (gap ++ (word ++ rest))) =
      some rest := by
  rw [trimStart_append_of_isBlankText blanks,
    trimStart_of_spells lower follows.spells]
  exact afterKeyword?_eq_some_iff.2 ⟨word, follows.spells, rfl, follows.ends⟩

/-- Where a keyword follows, no other one is found. -/
theorem Follows.afterKeyword?_of_ne {gap word rest : Text}
    (follows : Follows (letter :: letters) gap word rest)
    {other : Char} (lower' : other.isLower) (different : other ≠ letter)
    (others : Text) :
    afterKeyword? (other :: others) (trimStart (gap ++ (word ++ rest))) =
      none := by
  by_cases blanks : IsBlankText gap
  · rw [trimStart_append_of_isBlankText blanks,
      trimStart_of_spells lower follows.spells]
    obtain ⟨first, characters, rfl, folds, -⟩ :=
      exists_cons_of_spells lower follows.spells
    rw [afterKeyword?, List.cons_append, dropKeyword?,
      if_neg (folds ▸ different.symm), Option.filter_none]
  · exact afterKeyword?_gap_of_not_isBlankText lower' follows.isGap blanks _

/-- A keyword that is found where a word has ended is one behind blanks. -/
theorem exists_follows {text rest : Text} (ends : endsWord text)
    (found : afterKeyword? (letter :: letters) (trimStart text) = some rest) :
    ∃ gap word, Follows (letter :: letters) gap word rest ∧
      IsBlankText gap ∧ text = gap ++ (word ++ rest) := by
  obtain ⟨word, spells, whole, ends'⟩ := afterKeyword?_eq_some_iff.1 found
  have blanks : IsBlankText (text.takeWhile isBlank) :=
    fun _ member => List.mem_takeWhile_imp member
  have parts : text = text.takeWhile isBlank ++ (word ++ rest) := by
    rw [← whole]
    exact List.takeWhile_append_dropWhile.symm
  have present : text.takeWhile isBlank ≠ [] := by
    intro nothing
    rw [parts, nothing, List.nil_append] at ends
    exact not_endsWord_of_spells lower spells rest ends
  exact ⟨_, word, ⟨isGap_of_isBlankText blanks, present, spells, ends'⟩,
    blanks, parts⟩

end Keywords

/-! ## TOP and DISTINCT after SELECT -/

/--
SELECT alone leads a query where a keyword follows that is not found as
DISTINCT.
-/
theorem Follows.isSelect {select keyword gap word rest : Text}
    (follows : Follows keyword gap word rest)
    (spells : Spells select "select".toList)
    (missing : afterKeyword? "distinct".toList
      (trimStart (gap ++ (word ++ rest))) = none) :
    IsSelect select (gap ++ (word ++ rest)) :=
  isSelect_of_afterKeyword?_eq_none spells
    (follows.isGap.endsWord_append follows.present _) missing

/-- TOP is found where only blanks set it apart. -/
theorem Follows.hasTop_iff {gap top rest : Text}
    (follows : Follows "top".toList gap top rest) :
    hasTop (gap ++ (top ++ rest)) ↔ IsBlankText gap := by
  rw [hasTop]
  constructor
  · intro found
    by_contra commented
    have missing : afterKeyword? "top".toList
        (trimStart (gap ++ (top ++ rest))) = none :=
      afterKeyword?_gap_of_not_isBlankText (by decide) follows.isGap commented _
    rw [missing] at found
    cases found
  · intro blanks
    have found : afterKeyword? "top".toList
        (trimStart (gap ++ (top ++ rest))) = some rest :=
      follows.afterKeyword?_eq (by decide) blanks
    rw [found]
    rfl

/-- No TOP is found where none follows. -/
theorem not_hasTop_of_forall_ne {text : Text} (ends : endsWord text)
    (missing : ∀ gap top rest, Follows "top".toList gap top rest →
      text ≠ gap ++ (top ++ rest)) : ¬ hasTop text := by
  rw [hasTop, Option.isSome_iff_exists]
  rintro ⟨rest, found⟩
  obtain ⟨gap, top, follows, -, whole⟩ := exists_follows (by decide) ends found
  exact missing gap top rest follows whole

end LeadingSelect

open LeadingSelect

namespace Statement

/--
A TOP that blanks and comments set apart from SELECT, or from a DISTINCT
after it, keeps the statement exactly if no comment is among them; otherwise
the clause of the row window is put before that TOP as well.  A DISTINCT that
they set apart from SELECT keeps its place before the clause exactly if no
comment is among them; otherwise the clause follows SELECT.
-/
theorem limited_between_keywords (window : RowWindow) (statement : Text)
    {select : Text} (spells : Spells select "select".toList) :
    let clause := window.clause?.getD []
    let front := prelude statement ++ select
    (∀ gap top rest, Follows "top".toList gap top rest →
      anchored statement = select ++ (gap ++ (top ++ rest)) →
        limited window statement =
          if IsBlankText gap then statement
          else front ++ clause ++ (gap ++ (top ++ rest))) ∧
    ∀ gap distinct rest, Follows "distinct".toList gap distinct rest →
      anchored statement = select ++ (gap ++ (distinct ++ rest)) →
        (¬ IsBlankText gap →
          limited window statement =
            front ++ clause ++ (gap ++ (distinct ++ rest))) ∧
        (IsBlankText gap →
          (∀ gap' top rest', Follows "top".toList gap' top rest' →
            rest = gap' ++ (top ++ rest') →
              limited window statement =
                if IsBlankText gap' then statement
                else front ++ gap ++ distinct ++ clause ++ rest) ∧
          ((∀ gap' top rest', Follows "top".toList gap' top rest' →
            rest ≠ gap' ++ (top ++ rest')) →
              limited window statement =
                front ++ gap ++ distinct ++ clause ++ rest)) := by
  intro clause front
  constructor
  · intro gap top rest follows stands
    have alone : IsSelect select (gap ++ (top ++ rest)) :=
      follows.isSelect spells
        (follows.afterKeyword?_of_ne (by decide) (by decide) (by decide) _)
    rw [limited_of_isSelect alone stands]
    exact if_congr follows.hasTop_iff rfl rfl
  · intro gap distinct rest follows stands
    constructor
    · intro commented
      have alone : IsSelect select (gap ++ (distinct ++ rest)) :=
        follows.isSelect spells
          (afterKeyword?_gap_of_not_isBlankText (by decide) follows.isGap
            commented _)
      have noTop : ¬ hasTop (gap ++ (distinct ++ rest)) := by
        have missing : afterKeyword? "top".toList
            (trimStart (gap ++ (distinct ++ rest))) = none :=
          follows.afterKeyword?_of_ne (by decide) (by decide) (by decide) _
        rw [hasTop, missing]
        decide
      rw [limited_of_isSelect alone stands, if_neg noTop]
    · intro blanks
      have both : IsSelect (select ++ (gap ++ distinct)) rest :=
        .distinct spells
          (.mk follows.present blanks follows.spells follows.ends)
      have stands' : anchored statement =
          select ++ (gap ++ distinct) ++ rest := by
        simpa using stands
      have inserted : limited window statement =
          if hasTop rest then statement
          else front ++ gap ++ distinct ++ clause ++ rest := by
        have found := limited_of_isSelect both stands' window
        simpa [front, clause] using found
      rw [inserted]
      constructor
      · rintro gap' top rest' follows' rfl
        exact if_congr follows'.hasTop_iff rfl rfl
      · intro missing
        exact if_neg (not_hasTop_of_forall_ne follows.ends missing)

/-- A query with blanks between its keywords, and one with a comment there. -/
theorem keywords_across_blanks_and_comment :
    let window : RowWindow := ⟨some 10, none⟩
    let first := "(SELECT\n\tDISTINCT TOP 3 name FROM users)".toList
    let each := "SELECT /* each */ DISTINCT name FROM users".toList
    Spells "SELECT".toList "select".toList ∧
      (Follows "distinct".toList "\n\t".toList "DISTINCT".toList
          " TOP 3 name FROM users)".toList ∧
        Follows "top".toList " ".toList "TOP".toList
          " 3 name FROM users)".toList ∧
        anchored first = "SELECT\n\tDISTINCT TOP 3 name FROM users)".toList ∧
        limited window first = first) ∧
      Follows "distinct".toList " /* each */ ".toList "DISTINCT".toList
          " name FROM users".toList ∧
        anchored each = each ∧
        limited window each =
          "SELECT TOP 10 /* each */ DISTINCT name FROM users".toList := by
  intro window first each
  have spells : Spells "SELECT".toList "select".toList := by decide
  have apart : Follows "distinct".toList "\n\t".toList "DISTINCT".toList
      " TOP 3 name FROM users)".toList :=
    ⟨isGap_of_isBlankText (by decide), by decide, by decide, by decide⟩
  have top : Follows "top".toList " ".toList "TOP".toList
      " 3 name FROM users)".toList :=
    ⟨isGap_of_isBlankText (by decide), by decide, by decide, by decide⟩
  have behind : Follows "distinct".toList " /* each */ ".toList
      "DISTINCT".toList " name FROM users".toList :=
    ⟨isGap_of_star_notMem " each ".toList (by decide), by decide, by decide,
      by decide⟩
  have stands : anchored first =
      "SELECT\n\tDISTINCT TOP 3 name FROM users)".toList := by
    decide +kernel
  have stands' : anchored each = each := by decide +kernel
  refine ⟨spells, ⟨apart, top, stands, ?_⟩, behind, stands', ?_⟩
  · obtain ⟨across, -⟩ :=
      ((limited_between_keywords window first spells).2 _ _ _ apart stands).2
        (by decide)
    rw [across _ _ _ top rfl, if_pos (by decide)]
  · rw [((limited_between_keywords window each spells).2 _ _ _ behind
      stands').1 (by decide)]
    decide +kernel

/--
A TOP is not always respected, and a DISTINCT does not always keep its place:
a comment between the keywords has the clause put before it.
-/
theorem not_always_found_behind_comment :
    (¬ ∀ (window : RowWindow) (statement select gap top rest : Text),
      Spells select "select".toList → Follows "top".toList gap top rest →
      anchored statement = select ++ (gap ++ (top ++ rest)) →
        limited window statement = statement) ∧
    ¬ ∀ (window : RowWindow) (statement select gap distinct rest : Text),
      Spells select "select".toList →
      Follows "distinct".toList gap distinct rest →
      anchored statement = select ++ (gap ++ (distinct ++ rest)) →
        prelude statement ++ select ++ gap ++ distinct <+:
          limited window statement := by
  constructor
  · intro respected
    have top : Follows "top".toList " /* first rows */ ".toList "TOP".toList
        " 3 a FROM t".toList :=
      ⟨isGap_of_star_notMem " first rows ".toList (by decide), by decide,
        by decide, by decide⟩
    have kept := respected ⟨some 10, none⟩
      "SELECT /* first rows */ TOP 3 a FROM t".toList "SELECT".toList _ _ _
      (by decide) top (by decide +kernel)
    have twice : limited ⟨some 10, none⟩
        "SELECT /* first rows */ TOP 3 a FROM t".toList =
        "SELECT TOP 10 /* first rows */ TOP 3 a FROM t".toList := by
      decide +kernel
    rw [twice] at kept
    exact absurd kept (by decide)
  · intro keeps
    have distinct : Follows "distinct".toList " /* each */ ".toList
        "DISTINCT".toList " a FROM t".toList :=
      ⟨isGap_of_star_notMem " each ".toList (by decide), by decide, by decide,
        by decide⟩
    have first := keeps ⟨some 10, none⟩
      "SELECT /* each */ DISTINCT a FROM t".toList "SELECT".toList _ _ _
      (by decide) distinct (by decide +kernel)
    have before : limited ⟨some 10, none⟩
        "SELECT /* each */ DISTINCT a FROM t".toList =
        "SELECT TOP 10 /* each */ DISTINCT a FROM t".toList := by
      decide +kernel
    rw [before] at first
    exact absurd first (by decide +kernel)

end Statement

end SqlAnywhere
