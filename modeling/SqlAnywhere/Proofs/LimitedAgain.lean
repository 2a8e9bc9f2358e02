import Mathlib.Data.List.TakeWhile
import SqlAnywhere.Proofs.LimitedBinding
import SqlAnywhere.Proofs.WindowClause

/-!
# Limiting a limited statement

A statement that limiting keeps is settled: it does not lead with SELECT, or
TOP stands after that.  Limiting a statement settles it.

The scan for the leading SELECT runs over another text once a clause is put
in, and it could find another SELECT there, as it tries one closing mark of a
comment after the other.  It does not, since the clause holds no mark.  In
each state of the scan, what is left of both texts is the same up to the
clause, from the last letter of SELECT or DISTINCT back to the start.
-/

namespace SqlAnywhere

open Segment

/-! ## Two scans side by side -/

namespace Outlook

/--
Whether what is left in each state of one scan is related to what is left in
another one.
-/
structure Rel (Related : Text → Text → Prop) (outlook outlook' : Outlook) :
    Prop where
  outside : Option.Rel Related outlook.outside outlook'.outside
  afterDash : Option.Rel Related outlook.afterDash outlook'.afterDash
  afterSlash : Option.Rel Related outlook.afterSlash outlook'.afterSlash
  inLine : Option.Rel Related outlook.inLine outlook'.inLine
  inBlock : Option.Rel Related outlook.inBlock outlook'.inBlock
  afterStar : Option.Rel Related outlook.afterStar outlook'.afterStar

end Outlook

section Related

variable {Related : Text → Text → Prop} {found found' other other' : Option Text}

theorem rel_ite {condition : Prop} [Decidable condition]
    (related : Option.Rel Related found found')
    (related' : Option.Rel Related other other') :
    Option.Rel Related (if condition then found else other)
      (if condition then found' else other') := by
  split
  · exact related
  · exact related'

theorem rel_or (related : Option.Rel Related found found')
    (related' : Option.Rel Related other other') :
    Option.Rel Related (found.or other) (found'.or other') := by
  cases related with
  | some related => exact .some related
  | none => exact related'

theorem rel_self (same : ∀ text ∈ found, Related text text) :
    Option.Rel Related found found := by
  cases found with
  | none => exact .none
  | some text => exact .some (same text rfl)

end Related

namespace LeadingSelect

open Text

/--
One more character before two texts leads both scans to the same state, or to
a SELECT.
-/
theorem rel_outlook_cons {Related : Text → Text → Prop} {text text' : Text}
    (related : (outlook text).Rel Related (outlook text'))
    {character : Char}
    (select : Option.Rel Related (afterSelect? (character :: text))
      (afterSelect? (character :: text'))) :
    (outlook (character :: text)).Rel Related
      (outlook (character :: text')) where
  outside :=
    rel_ite related.outside
      (rel_ite related.afterDash (rel_ite related.afterSlash select))
  afterDash := rel_ite related.inLine .none
  afterSlash := rel_ite related.inBlock .none
  inLine := rel_ite related.outside related.inLine
  inBlock := rel_ite (rel_or related.afterStar related.inBlock) related.inBlock
  afterStar := rel_ite related.outside .none

/-! ## Texts behind a comment -/

theorem Leads.length_lt {statement rest : Text} (leads : Leads statement rest) :
    rest.length < statement.length := by
  obtain ⟨prelude, keywords, rfl, -, select⟩ := leads
  obtain ⟨first, others, rfl, -⟩ := select.exists_cons
  simp only [List.length_append, List.length_cons]
  omega

theorem LeadsAfterLine.length_lt {text rest : Text}
    (leads : LeadsAfterLine text rest) : rest.length < text.length := by
  obtain ⟨words, others, rfl, -, -, leads⟩ := leads
  have shorter := leads.length_lt
  rw [List.length_append]
  omega

theorem LeadsAfterMark.length_lt {text rest : Text}
    (leads : LeadsAfterMark text rest) : rest.length < text.length := by
  obtain ⟨body, others, rfl, leads⟩ := leads
  have shorter := leads.length_lt
  simp only [List.length_append, List.length_cons]
  omega

/-! ## Keywords before a clause -/

/--
What is left of two texts of which one has a text in the place of a rest of
the other: that text or the rest is left with the same before it, or the same
is left from behind it.
-/
def Corresponds (rest wide text text' : Text) : Prop :=
  (∃ front, text = front ++ rest ∧ text' = front ++ wide) ∨
    text = text' ∧ text.length < rest.length

/--
What holds of a text up to the leading SELECT or its DISTINCT, and of the
rest after it: how the text ends, and that the rest begins with no DISTINCT
of the SELECT.
-/
structure Finishes (front rest : Text) : Prop where
  letters : "ct".toList <:+ front.map foldCharacter
  ends : endsWord rest
  noDistinct :
    "select".toList <:+ front.map foldCharacter → skipDistinct rest = rest

/--
What holds of a text that can stand in the place of the rest: a word ends
before it, it begins with no DISTINCT, and comments go on in it as in the
rest.
-/
structure StandsFor (wide rest : Text) : Prop where
  ends : endsWord wide
  noDistinct : skipDistinct wide = wide
  inLine : (outlook wide).inLine = (outlook rest).inLine
  inBlock : (outlook wide).inBlock = (outlook rest).inBlock

/-- The words that lead a query finish a text. -/
theorem IsSelect.finishes {keywords rest : Text}
    (select : IsSelect keywords rest) (before : Text) :
    Finishes (before ++ keywords) rest := by
  cases select with
  | all spells ends other =>
      refine ⟨?_, ends, fun _ => skipDistinct_eq_iff.2 (.inr ⟨rfl, other⟩)⟩
      rw [List.map_append, spells]
      exact List.IsSuffix.trans (by decide) (List.suffix_append _ _)
  | @distinct first _ _ _ distinct =>
      obtain @⟨blanks, second, _, -, -, spells, ends⟩ := distinct
      have last : "distinct".toList <:+
          (before ++ (first ++ (blanks ++ second))).map foldCharacter := by
        rw [← spells, ← List.append_assoc, ← List.append_assoc, List.map_append]
        exact List.suffix_append _ _
      refine ⟨List.IsSuffix.trans (by decide) last, ends, fun select => ?_⟩
      rcases List.suffix_or_suffix_of_suffix select last with ends | ends
      · exact absurd ends (by decide)
      · exact absurd ends (by decide)

/--
A keyword is looked for in the front of a text alone, if the front does not
end within it.
-/
theorem dropKeyword?_append_of_not {keyword front : Text}
    (outside : ¬ (front.map foldCharacter <+: keyword ∧
      front.length < keyword.length)) (rest : Text) :
    dropKeyword? keyword (front ++ rest) =
      (dropKeyword? keyword front).map (· ++ rest) := by
  fun_induction dropKeyword? keyword front with
  | case1 front => simp [dropKeyword?]
  | case2 letter letters => simp at outside
  | case3 letters character others ih =>
      rw [List.cons_append, dropKeyword?, if_pos rfl]
      apply ih
      rintro ⟨start, short⟩
      exact outside ⟨by simpa using start, by simpa using short⟩
  | case4 letter letters character others other =>
      rw [List.cons_append, dropKeyword?, if_neg other]
      rfl

section Front

variable {front rest wide : Text} (finishes : Finishes front rest)
  (stands : StandsFor wide rest) {part : Text}
include finishes

/--
No last part of the text ends within one of the keywords: they have no other
letters `ct` but their last ones.
-/
theorem Finishes.not_within (last : part <:+ front) (some : part ≠ [])
    {keyword : Text} (known : keyword ∈ ["select".toList, "distinct".toList]) :
    ¬ (part.map foldCharacter <+: keyword ∧ part.length < keyword.length) := by
  rintro ⟨start, short⟩
  have checked : ∀ keyword ∈ ["select".toList, "distinct".toList],
      ∀ length < keyword.length, 0 < length →
        ¬ keyword.take length <:+ "ct".toList ∧
          ¬ "ct".toList <:+ keyword.take length := by
    decide
  have letters := List.prefix_iff_eq_take.1 start
  rw [List.length_map] at letters
  have outside := checked keyword known _ short (List.length_pos_iff.2 some)
  rw [← letters] at outside
  rcases List.suffix_or_suffix_of_suffix (last.map foldCharacter)
      finishes.letters with ends | ends
  · exact outside.1 ends
  · exact outside.2 ends

/-- A last part of the text ends with a letter. -/
theorem Finishes.folds_getLast (last : part <:+ front) :
    ∀ letter ∈ part.getLast?, foldCharacter letter = 't' := by
  intro letter final
  obtain ⟨earlier, letters⟩ := finishes.letters
  obtain ⟨before, rfl⟩ := last
  have same := congrArg List.getLast? letters
  rw [List.getLast?_append, List.getLast?_map, List.getLast?_append,
    Option.mem_def.1 final] at same
  exact (Option.some.inj same).symm

/-- A last part of the text is not blank. -/
theorem Finishes.trimStart_ne_nil (last : part <:+ front) (some : part ≠ []) :
    trimStart part ≠ [] := by
  intro nothing
  have final := List.getLast?_eq_some_getLast some
  have blank : isBlank (part.getLast some) :=
    List.dropWhile_eq_nil_iff.1 nothing _ (List.getLast_mem some)
  have letter := finishes.folds_getLast last _ final
  rw [(folds_and_ends_of_isBlank blank).1] at letter
  rw [letter] at blank
  exact absurd blank (by decide)

include stands

/--
A keyword is found in a last part of the text, before the rest and before
what stands for it.
-/
theorem Finishes.exists_afterKeyword? (last : part <:+ front) (some : part ≠ [])
    {keyword : Text} (known : keyword ∈ ["select".toList, "distinct".toList]) :
    ∃ found : Option Text,
      (∀ left ∈ found, ∃ word, Spells word keyword ∧ part = word ++ left) ∧
        afterKeyword? keyword (part ++ rest) = found.map (· ++ rest) ∧
        afterKeyword? keyword (part ++ wide) = found.map (· ++ wide) := by
  have outside := finishes.not_within last some known
  have same (left : Text) :
      endsWord (left ++ wide) = endsWord (left ++ rest) := by
    cases left with
    | nil => exact stands.ends.trans finishes.ends.symm
    | cons => rfl
  refine ⟨(dropKeyword? keyword part).filter fun left => endsWord (left ++ rest),
    ?_, ?_, ?_⟩
  · intro left found
    exact dropKeyword?_eq_some_iff.1 (Option.filter_eq_some_iff.1 found).1
  · rw [afterKeyword?, dropKeyword?_append_of_not outside]
    cases dropKeyword? keyword part with
    | none => rfl
    | some left =>
        rw [Option.map_some, Option.filter_some, Option.filter_some]
        split <;> rfl
  · rw [afterKeyword?, dropKeyword?_append_of_not outside]
    cases dropKeyword? keyword part with
    | none => rfl
    | some left =>
        rw [Option.map_some, Option.filter_some, Option.filter_some, same]
        split <;> rfl

/--
DISTINCT is skipped in what follows a SELECT in the text, before the rest and
before what stands for it.
-/
theorem Finishes.exists_skipDistinct {word : Text}
    (spells : Spells word "select".toList) (last : word ++ part <:+ front) :
    ∃ left, skipDistinct (part ++ rest) = left ++ rest ∧
      skipDistinct (part ++ wide) = left ++ wide := by
  cases part with
  | nil =>
      have select : "select".toList <:+ front.map foldCharacter := by
        rw [List.append_nil] at last
        exact spells ▸ last.map foldCharacter
      exact ⟨[], finishes.noDistinct select, stands.noDistinct⟩
  | cons character others =>
      have last' : character :: others <:+ front :=
        (List.suffix_append _ _).trans last
      rw [List.cons_append, List.cons_append, skipDistinct, skipDistinct]
      split
      · have trimmed (text : Text) :
            trimStart (character :: (others ++ text)) =
              trimStart (character :: others) ++ text := by
          rw [trimStart, ← List.cons_append, List.dropWhile_append, if_neg]
          · rfl
          · rw [List.isEmpty_iff]
            exact finishes.trimStart_ne_nil last' (List.cons_ne_nil _ _)
        obtain ⟨found, -, first, second⟩ := finishes.exists_afterKeyword? stands
          ((List.dropWhile_suffix _).trans last')
          (finishes.trimStart_ne_nil last' (List.cons_ne_nil _ _))
          (show "distinct".toList ∈ ["select".toList, "distinct".toList] by decide)
        rw [trimmed, trimmed, trimStart, first, second]
        cases found with
        | none => exact ⟨character :: others, rfl, rfl⟩
        | some left => exact ⟨left, rfl, rfl⟩
      · exact ⟨character :: others, rfl, rfl⟩

/--
The same is found after a SELECT at the start of a last part of the text.
-/
theorem Finishes.rel_afterSelect? (last : part <:+ front) (some : part ≠ []) :
    Option.Rel (Corresponds rest wide) (afterSelect? (part ++ rest))
      (afterSelect? (part ++ wide)) := by
  obtain ⟨found, parts, first, second⟩ := finishes.exists_afterKeyword? stands
    last some
    (show "select".toList ∈ ["select".toList, "distinct".toList] by decide)
  rw [afterSelect?, afterSelect?, first, second]
  cases found with
  | none => exact .none
  | some left =>
      obtain ⟨word, spells, rfl⟩ := parts left rfl
      obtain ⟨left', skipped, skipped'⟩ :=
        finishes.exists_skipDistinct stands spells last
      exact .some (.inl ⟨left', skipped, skipped'⟩)

/-! ## The scan before a clause -/

omit stands in
/--
The last letter of the text is passed over in comments, and begins no SELECT.
-/
theorem Finishes.outlook_last {letter : Char} (last : [letter] <:+ front)
    (text : Text) :
    outlook (letter :: text) =
      ⟨afterSelect? (letter :: text), none, none, (outlook text).inLine,
        (outlook text).inBlock, none⟩ := by
  have folds : foldCharacter letter = 't' := finishes.folds_getLast last _ rfl
  have word : isWordCharacter letter := by
    apply isWordCharacter_of_foldsToLetter
    rw [foldsToLetter, folds]
    decide
  have other {mark : Char} (outside : ¬ isWordCharacter mark) :
      letter ≠ mark := by
    rintro rfl
    exact outside word
  have solid : ¬ isBlank letter := fun blank =>
    (folds_and_ends_of_isBlank blank).2 word
  have noParenthesis : letter ≠ '(' := other (by decide)
  have noDash : letter ≠ '-' := other (by decide)
  have noSlash : letter ≠ '/' := other (by decide)
  have noStar : letter ≠ '*' := other (by decide)
  have noNewline : letter ≠ '\n' := other (by decide)
  simp [outlook, solid, noParenthesis, noDash, noSlash, noStar, noNewline]

/--
From the start of a last part of the text, both scans find the same in each
of their states.
-/
theorem Finishes.rel_outlook (last : part <:+ front) (some : part ≠ []) :
    (outlook (part ++ rest)).Rel (Corresponds rest wide)
      (outlook (part ++ wide)) := by
  induction part with
  | nil => exact absurd rfl some
  | cons character others ih =>
      have select := finishes.rel_afterSelect? stands last some
      by_cases alone : others = []
      · subst alone
        have behind {found : Option Text}
            (shorter : ∀ text ∈ found, text.length < rest.length) :
            Option.Rel (Corresponds rest wide) found found :=
          rel_self fun text left => .inr ⟨rfl, shorter text left⟩
        rw [List.singleton_append, List.singleton_append,
          finishes.outlook_last last, finishes.outlook_last last,
          stands.inLine, stands.inBlock]
        exact {
          outside := select
          afterDash := .none
          afterSlash := .none
          inLine := behind fun text left =>
            ((tells_outlook rest).inLine text left).length_lt
          inBlock := behind fun text left =>
            ((tells_outlook rest).inBlock text left).length_lt
          afterStar := .none }
      · have last' := (List.suffix_cons _ _).trans last
        exact rel_outlook_cons (ih last' alone) select

/--
The rest that is left of a text is left in the same place of the text with
what stands for it.
-/
theorem Finishes.rest?_eq_some (found : rest? (front ++ rest) = some rest) :
    rest? (front ++ wide) = some wide := by
  have some : front ≠ [] := by
    rintro rfl
    exact absurd finishes.letters (by decide)
  have related := (finishes.rel_outlook stands List.suffix_rfl some).outside
  change Option.Rel _ (rest? (front ++ rest)) (rest? (front ++ wide)) at related
  rw [found] at related
  generalize rest? (front ++ wide) = found' at related ⊢
  cases related with
  | some corresponds =>
      rcases corresponds with ⟨before, whole, rfl⟩ | ⟨-, shorter⟩
      · rw [List.self_eq_append_left] at whole
        rw [whole]
        rfl
      · exact absurd shorter (lt_irrefl _)

end Front

/-- A clause stands for the rest that it is put before. -/
theorem standsFor_clause {window : RowWindow} {clause : Text}
    (isClause : RowWindow.IsClause window clause) (rest : Text) :
    StandsFor (clause ++ rest) rest := by
  have calm : Calm clause := by
    have calm := calm_clause window
    rwa [RowWindow.clause?_eq_some_iff.2 isClause] at calm
  refine ⟨?_, ?_, inLine_append (calm.notMem (by decide)) rest,
    inBlock_append (calm.notMem (by decide)) rest⟩
  · obtain ⟨others, rfl⟩ := isClause.exists_eq_top
    rfl
  · obtain ⟨others, rfl⟩ := isClause.exists_eq_top
    rfl

/-- A clause is found again by its TOP. -/
theorem hasTop_clause_append {window : RowWindow} {clause : Text}
    (isClause : RowWindow.IsClause window clause) (rest : Text) :
    hasTop (clause ++ rest) := by
  obtain ⟨others, rfl⟩ := isClause.exists_eq_top
  rfl

end LeadingSelect

open LeadingSelect

namespace Statement

/-! ## Settled statements -/

/--
Whether TOP stands after the leading SELECT of a statement, if there is such
a SELECT.
-/
def IsSettled (statement : Text) : Prop :=
  ∀ rest, rest? statement = some rest → hasTop rest

/-- A settled statement is kept, whatever the window. -/
theorem IsSettled.limited_eq {statement : Text} (settled : IsSettled statement)
    (window : RowWindow) : limited window statement = statement := by
  cases found : rest? statement with
  | none => exact limited_of_rest?_eq_none found window
  | some rest =>
      obtain ⟨prelude, keywords, whole, -⟩ :=
        (tells_outlook statement).outside rest found
      have inserted := limited_of_rest?_eq_some (whole ▸ found) window
      rw [if_pos (settled rest found), ← whole] at inserted
      exact inserted

/-- Limiting settles a statement. -/
theorem isSettled_limited {window : RowWindow} {clause : Text}
    (isClause : RowWindow.IsClause window clause) (statement : Text) :
    IsSettled (limited window statement) := by
  intro rest' found'
  cases found : rest? statement with
  | none =>
      rw [limited_of_rest?_eq_none found, found] at found'
      cases found'
  | some rest =>
      obtain ⟨prelude, keywords, whole, -, select⟩ :=
        (tells_outlook statement).outside rest found
      have inserted := limited_of_rest?_eq_some (whole ▸ found) window
      rw [← whole, RowWindow.clause?_eq_some_iff.2 isClause,
        Option.getD_some] at inserted
      by_cases top : hasTop rest
      · rw [inserted, if_pos top, found] at found'
        exact Option.some.inj found' ▸ top
      · have again : rest? (prelude ++ keywords ++ (clause ++ rest)) =
            some (clause ++ rest) :=
          (select.finishes prelude).rest?_eq_some
            (standsFor_clause isClause rest) (whole ▸ found)
        rw [inserted, if_neg top, List.append_assoc, again] at found'
        exact Option.some.inj found' ▸ hasTop_clause_append isClause rest

/--
Limiting a statement a second time, to whatever window, makes no difference
to it, if the first window has a limit or an offset above zero.  The limited
statement has TOP after its leading SELECT, and one that does not lead with
SELECT is kept both times.
-/
theorem limited_again (window other : RowWindow) (statement : Text)
    (wanted : window.limit.isSome ∨ ∃ offset ∈ window.offset, 0 < offset) :
    limited other (limited window statement) = limited window statement ∧
      IsSettled (limited window statement) ∧
      (limited window statement = statement ↔ IsSettled statement) := by
  obtain ⟨clause, written⟩ :=
    Option.isSome_iff_exists.1 (RowWindow.isSome_clause?_iff.2 wanted)
  have settled := isSettled_limited
    (RowWindow.clause?_eq_some_iff.1 written) statement
  refine ⟨settled.limited_eq other, settled, fun kept => ?_,
    fun settled' => settled'.limited_eq window⟩
  rwa [kept] at settled

/--
A query with comments before it that hold a SELECT and closing marks of their
own.
-/
theorem limited_again_after_comments :
    let statement :=
      "/* all */ names */ -- SELECT 1\nSELECT DISTINCT name FROM users".toList
    ((⟨none, some 5⟩ : RowWindow).limit.isSome ∨
        ∃ offset ∈ (some 5 : Option UInt64), 0 < offset) ∧
      limited ⟨none, some 5⟩ statement =
        ("/* all */ names */ -- SELECT 1\n" ++
          "SELECT DISTINCT TOP ALL START AT 6 name FROM users").toList ∧
      limited ⟨some 10, none⟩ (limited ⟨none, some 5⟩ statement) =
        limited ⟨none, some 5⟩ statement := by
  intro statement
  have wanted : (⟨none, some 5⟩ : RowWindow).limit.isSome ∨
      ∃ offset ∈ (some 5 : Option UInt64), 0 < offset :=
    .inr ⟨5, rfl, by decide⟩
  refine ⟨wanted, by decide +kernel, ?_⟩
  exact (limited_again ⟨none, some 5⟩ ⟨some 10, none⟩ statement wanted).1

end Statement

end SqlAnywhere
