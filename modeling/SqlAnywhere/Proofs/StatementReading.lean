import SqlAnywhere.Proofs.Keyword
import SqlAnywhere.Proofs.SegmentGrammar

/-!
# Reading a statement up to its SELECT

A statement can be read as one that leads with SELECT if blanks, opening
parentheses and comments stand before the keyword.  A comment between marks
can be read up to each of its closing marks.

The scan for the leading SELECT finds a reading if there is one.  It passes
over a comment at its first closing mark, as long as SELECT can be reached
from there.
-/

namespace SqlAnywhere

open Segment

namespace LeadingSelect

/-! ## Reading a statement as one that leads with SELECT -/

/--
Blanks, parentheses and comments in a row; what a comment between marks can
hold is given.
-/
inductive IsPrelude (Holds : Text → Prop) : Text → Prop where
  | nil : IsPrelude Holds []
  | skipped {character : Char} {others : Text}
      (skips : isBlank character ∨ character = '(')
      (more : IsPrelude Holds others) : IsPrelude Holds (character :: others)
  | lineComment {words others : Text}
      (oneLine : '\n' ∉ words) (newline : others.head? = some '\n')
      (more : IsPrelude Holds others) :
      IsPrelude Holds ('-' :: '-' :: words ++ others)
  | blockComment {body others : Text} (holds : Holds body)
      (more : IsPrelude Holds others) :
      IsPrelude Holds ('/' :: '*' :: body ++ '*' :: '/' :: others)

/--
Whether a statement leads with SELECT before a rest if its comments may hold
closing marks.
-/
def Reads (statement prelude keywords rest : Text) : Prop :=
  statement = prelude ++ keywords ++ rest ∧
    IsPrelude (fun _ => True) prelude ∧ IsSelect keywords rest

/--
Whether a statement leads with SELECT only if some comment is read past its
first closing mark.
-/
def Misreads (statement prelude keywords rest : Text) : Prop :=
  Reads statement prelude keywords rest ∧ ¬ IsPrelude comment.Holds prelude

/-- SELECT begins with a character that folds to its first letter. -/
theorem IsSelect.exists_cons {keywords rest : Text}
    (select : IsSelect keywords rest) :
    ∃ first others, keywords = first :: others ∧ foldCharacter first = 's' := by
  have spelled {word : Text} (spells : Text.Spells word "select".toList) :
      ∃ first others, word = first :: others ∧ foldCharacter first = 's' := by
    cases word with
    | nil => simp [Text.Spells] at spells
    | cons first others => exact ⟨first, others, rfl, (List.cons.inj spells).1⟩
  cases select with
  | all spells => exact spelled spells
  | @distinct _ words _ spells distinct =>
      obtain ⟨first, others, rfl, letter⟩ := spelled spells
      exact ⟨first, others ++ words, rfl, letter⟩

/-- A character that folds to a letter is no blank, and no mark. -/
theorem not_skips_of_folds {character : Char}
    (letter : foldCharacter character = 's') :
    ¬ (isBlank character ∨ character = '(') ∧ character ≠ '-' ∧
      character ≠ '/' := by
  refine ⟨?_, ?_, ?_⟩
  · rintro (blank | rfl)
    · rw [(folds_and_ends_of_isBlank blank).1] at letter
      subst letter
      exact absurd blank (by decide)
    · exact absurd letter (by decide)
  · rintro rfl
    exact absurd letter (by decide)
  · rintro rfl
    exact absurd letter (by decide)

theorem rest?_cons_of_skips {character : Char}
    (skips : isBlank character ∨ character = '(') (text : Text) :
    rest? (character :: text) = rest? text := by
  rw [rest?, outlook]
  apply if_pos
  simpa using skips

/-- Of a text with SELECT at its start, what follows SELECT is left. -/
theorem rest?_of_isSelect {keywords rest : Text}
    (select : IsSelect keywords rest) : rest? (keywords ++ rest) = some rest := by
  have found := afterSelect?_eq_some_iff.2 ⟨keywords, select, rfl⟩
  obtain ⟨first, others, rfl, letter⟩ := select.exists_cons
  obtain ⟨solid, noDash, noSlash⟩ := not_skips_of_folds letter
  rw [List.cons_append, rest?, outlook]
  simp only [Bool.or_eq_true, decide_eq_true_eq, if_neg solid, if_neg noDash,
    if_neg noSlash]
  exact found

/-- Characters of a line do not end a comment that ends with its line. -/
theorem inLine_append {words : Text} (oneLine : '\n' ∉ words) (rest : Text) :
    (outlook (words ++ rest)).inLine = (outlook rest).inLine := by
  induction words with
  | nil => rfl
  | cons character words ih =>
      rw [List.mem_cons, not_or] at oneLine
      rw [List.cons_append, outlook]
      simp only [if_neg (Ne.symm oneLine.1)]
      exact ih oneLine.2

/-- A comment that ends with its line is passed over. -/
theorem inLine_line {words rest : Text} (oneLine : '\n' ∉ words)
    (newline : rest.head? = some '\n') :
    (outlook (words ++ rest)).inLine = rest? rest := by
  obtain ⟨others, rfl⟩ := List.head?_eq_some_iff.1 newline
  rw [inLine_append oneLine, rest?_cons_of_skips (.inl (by decide))]
  rfl

theorem rest?_lineComment (text : Text) :
    rest? ('-' :: '-' :: text) = (outlook text).inLine := rfl

theorem rest?_blockComment (text : Text) :
    rest? ('/' :: '*' :: text) = (outlook text).inBlock := rfl

/-- Characters other than a star do not end a comment between marks. -/
theorem inBlock_append {body : Text} (noStar : '*' ∉ body) (text : Text) :
    (outlook (body ++ text)).inBlock = (outlook text).inBlock := by
  induction body with
  | nil => rfl
  | cons character body ih =>
      rw [List.mem_cons, not_or] at noStar
      rw [List.cons_append, outlook]
      simp only [if_neg (Ne.symm noStar.1)]
      exact ih noStar.2

/-- A closing mark ends a comment if a statement leads with SELECT after it. -/
theorem inBlock_close {text rest : Text} (found : rest? text = some rest) :
    (outlook ('*' :: '/' :: text)).inBlock = some rest := by
  have closed : (outlook ('/' :: text)).afterStar = some rest := found
  rw [outlook]
  simp only [if_pos, closed, Option.some_or]

/-- A comment without a closing mark in it is passed over. -/
theorem inBlock_comment {body text rest : Text} (holds : comment.Holds body)
    (found : rest? text = some rest) :
    (outlook (body ++ '*' :: '/' :: text)).inBlock = some rest := by
  induction body with
  | nil => exact inBlock_close found
  | cons character body ih =>
      obtain ⟨apart, holds⟩ := (comment_holds_cons_iff _ _).1 holds
      rw [List.cons_append, outlook]
      simp only [ih holds]
      split
      · next star =>
          -- No slash follows a star in the body, so that the star closes
          -- nothing.
          have noSlash :
              (outlook (body ++ '*' :: '/' :: text)).afterStar = none := by
            cases body with
            | nil => rfl
            | cons next body =>
                rw [List.cons_append, outlook]
                apply if_neg
                rintro rfl
                exact apart ⟨star, rfl⟩
          rw [noSlash, Option.none_or]
      · rfl

/-- A comment with closing marks in it is passed over at one of its marks. -/
theorem isSome_inBlock_comment (body : Text) {text : Text}
    (found : (rest? text).isSome) :
    (outlook (body ++ '*' :: '/' :: text)).inBlock.isSome := by
  induction body with
  | nil =>
      obtain ⟨rest, found⟩ := Option.isSome_iff_exists.1 found
      rw [List.nil_append, inBlock_close found]
      rfl
  | cons character body ih =>
      rw [List.cons_append, outlook]
      simp only
      split
      · rw [Option.isSome_or, ih, Bool.or_true]
      · exact ih

/--
A statement that can be read as one that leads with SELECT has something left
after it.
-/
theorem isSome_rest?_of_reads {statement prelude keywords rest : Text}
    (reads : Reads statement prelude keywords rest) :
    (rest? statement).isSome := by
  obtain ⟨rfl, skipped, select⟩ := reads
  rw [List.append_assoc]
  induction skipped with
  | nil =>
      rw [List.nil_append, rest?_of_isSelect select]
      rfl
  | skipped skips more ih =>
      rw [List.cons_append, rest?_cons_of_skips skips]
      exact ih
  | lineComment oneLine newline more ih =>
      rw [List.append_assoc, List.cons_append, List.cons_append,
        rest?_lineComment, inLine_line oneLine]
      · exact ih
      · rw [List.head?_append, newline]
        rfl
  | @blockComment body others holds more ih =>
      rw [List.append_assoc, List.cons_append, List.cons_append,
        rest?_blockComment]
      exact isSome_inBlock_comment body ih

/-! ## What the scan finds -/

/--
Whether a statement can be read as one that leads with SELECT before a rest.
-/
def Leads (statement rest : Text) : Prop :=
  ∃ prelude keywords, Reads statement prelude keywords rest

/--
Whether a statement leads with SELECT after the line that a text begins in.
-/
def LeadsAfterLine (text rest : Text) : Prop :=
  ∃ words others, text = words ++ others ∧ '\n' ∉ words ∧
    others.head? = some '\n' ∧ Leads others rest

/--
Whether a statement leads with SELECT after a mark that closes the comment a
text begins in.
-/
def LeadsAfterMark (text rest : Text) : Prop :=
  ∃ body others, text = body ++ '*' :: '/' :: others ∧ Leads others rest

/--
What an outlook tells about the text it is of, in each state of the scan.
-/
structure Tells (outlook : Outlook) (text : Text) : Prop where
  outside : ∀ rest, outlook.outside = some rest → Leads text rest
  afterDash : ∀ rest, outlook.afterDash = some rest →
    ∃ others, text = '-' :: others ∧ LeadsAfterLine others rest
  afterSlash : ∀ rest, outlook.afterSlash = some rest →
    ∃ others, text = '*' :: others ∧ LeadsAfterMark others rest
  inLine : ∀ rest, outlook.inLine = some rest → LeadsAfterLine text rest
  inBlock : ∀ rest, outlook.inBlock = some rest → LeadsAfterMark text rest
  afterStar : ∀ rest, outlook.afterStar = some rest →
    ∃ others, text = '/' :: others ∧ Leads others rest

theorem Leads.skipped {text rest : Text} {character : Char}
    (leads : Leads text rest)
    (skips : isBlank character ∨ character = '(') :
    Leads (character :: text) rest := by
  obtain ⟨prelude, keywords, rfl, skipped, select⟩ := leads
  exact ⟨character :: prelude, keywords, rfl, .skipped skips skipped, select⟩

theorem LeadsAfterLine.leads {text rest : Text}
    (leads : LeadsAfterLine text rest) : Leads ('-' :: '-' :: text) rest := by
  obtain ⟨words, others, rfl, oneLine, newline,
    prelude, keywords, rfl, skipped, select⟩ := leads
  -- SELECT begins with no newline, so that something is skipped before it.
  have newline' : prelude.head? = some '\n' := by
    cases prelude with
    | cons first prelude => exact newline
    | nil =>
        obtain ⟨first, word, rfl, letter⟩ := select.exists_cons
        have blank : isBlank first := by
          rw [Option.some.inj newline]
          decide
        exact absurd (.inl blank) (not_skips_of_folds letter).1
  exact ⟨'-' :: '-' :: words ++ prelude, keywords, by simp,
    .lineComment oneLine newline' skipped, select⟩

theorem LeadsAfterMark.leads {text rest : Text}
    (leads : LeadsAfterMark text rest) : Leads ('/' :: '*' :: text) rest := by
  obtain ⟨body, others, rfl, prelude, keywords, rfl, skipped, select⟩ := leads
  exact ⟨'/' :: '*' :: body ++ '*' :: '/' :: prelude, keywords, by simp,
    .blockComment trivial skipped, select⟩

theorem LeadsAfterMark.cons {text rest : Text}
    (leads : LeadsAfterMark text rest) (character : Char) :
    LeadsAfterMark (character :: text) rest := by
  obtain ⟨body, others, rfl, leads⟩ := leads
  exact ⟨character :: body, others, rfl, leads⟩

/-- What is left by the scan is what some reading of the text leaves. -/
theorem tells_outlook (text : Text) : Tells (outlook text) text := by
  induction text with
  | nil => constructor <;> exact nofun
  | cons character text told =>
      constructor
      case outside =>
        intro rest found
        rw [outlook] at found
        simp only at found
        split at found
        · next skips =>
            exact (told.outside rest found).skipped (by simpa using skips)
        split at found
        · next dash =>
            obtain ⟨others, rfl, leads⟩ := told.afterDash rest found
            rw [dash]
            exact leads.leads
        split at found
        · next slash =>
            obtain ⟨others, rfl, leads⟩ := told.afterSlash rest found
            rw [slash]
            exact leads.leads
        obtain ⟨keywords, select, whole⟩ := afterSelect?_eq_some_iff.1 found
        exact ⟨[], keywords, whole, .nil, select⟩
      case afterDash =>
        intro rest found
        obtain ⟨dash, found⟩ := Option.ite_none_right_eq_some.1 found
        exact ⟨text, by rw [dash], told.inLine rest found⟩
      case afterSlash =>
        intro rest found
        obtain ⟨star, found⟩ := Option.ite_none_right_eq_some.1 found
        exact ⟨text, by rw [star], told.inBlock rest found⟩
      case inLine =>
        intro rest found
        rw [outlook] at found
        simp only at found
        split at found
        · next newline =>
            refine ⟨[], character :: text, rfl, List.not_mem_nil, ?_, ?_⟩
            · rw [newline]
              rfl
            · refine (told.outside rest found).skipped (.inl ?_)
              rw [newline]
              decide
        · next other =>
            obtain ⟨words, others, rfl, oneLine, leads⟩ :=
              told.inLine rest found
            exact ⟨character :: words, others, rfl,
              List.not_mem_cons_of_ne_of_not_mem (Ne.symm other) oneLine, leads⟩
      case inBlock =>
        intro rest found
        rw [outlook] at found
        simp only at found
        split at found
        · next star =>
            rcases Option.or_eq_some_iff.1 found with found | ⟨-, found⟩
            · obtain ⟨others, rfl, leads⟩ := told.afterStar rest found
              exact ⟨[], others, by rw [star]; rfl, leads⟩
            · exact (told.inBlock rest found).cons character
        · exact (told.inBlock rest found).cons character
      case afterStar =>
        intro rest found
        obtain ⟨slash, found⟩ := Option.ite_none_right_eq_some.1 found
        exact ⟨text, by rw [slash], told.outside rest found⟩

end LeadingSelect

end SqlAnywhere
