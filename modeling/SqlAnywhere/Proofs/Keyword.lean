import SqlAnywhere.Sql.LeadingSelect

/-!
# Keywords

A keyword stands at the start of a text if characters that fold to its letters
do, and if no word character follows.  The words that lead a query are SELECT
and, after blanks, DISTINCT.
-/

namespace SqlAnywhere

/-- The code points of the blanks. -/
def blankCodes : List Nat :=
  [0x09, 0x0A, 0x0B, 0x0C, 0x0D, 0x20, 0x85, 0xA0, 0x1680, 0x2000, 0x2001,
    0x2002, 0x2003, 0x2004, 0x2005, 0x2006, 0x2007, 0x2008, 0x2009, 0x200A,
    0x2028, 0x2029, 0x202F, 0x205F, 0x3000]

theorem mem_blankCodes_of_isBlank {character : Char}
    (blank : isBlank character) : character.toNat ∈ blankCodes := by
  simp only [isBlank, Bool.or_eq_true, Bool.and_eq_true, beq_iff_eq,
    decide_eq_true_eq] at blank
  simp only [blankCodes, List.mem_cons, List.not_mem_nil, or_false]
  omega

/-- Blanks fold to themselves, and belong to no word. -/
theorem folds_and_ends_of_isBlank {character : Char}
    (blank : isBlank character) :
    foldCharacter character = character ∧ ¬ isWordCharacter character := by
  have known : ∀ code ∈ blankCodes,
      foldCharacter (Char.ofNat code) = Char.ofNat code ∧
        ¬ isWordCharacter (Char.ofNat code) := by
    decide +kernel
  have facts := known _ (mem_blankCodes_of_isBlank blank)
  rwa [Char.ofNat_toNat] at facts

/-- Blanks are their own lower-case form. -/
theorem lowerCharacter_of_isBlank {character : Char}
    (blank : isBlank character) : lowerCharacter character = character := by
  have folds := (folds_and_ends_of_isBlank blank).1
  rw [foldCharacter] at folds
  split at folds
  · next long =>
      rw [long] at folds
      exact absurd folds (by decide)
  · exact folds

/-- A word ends where no word character follows. -/
theorem Text.endsWord_iff {text : Text} :
    endsWord text ↔ ∀ next ∈ text.head?, ¬ isWordCharacter next := by
  cases text <;> simp [endsWord]

/-- A digit belongs to words. -/
theorem isWordCharacter_of_isDigit {character : Char}
    (digit : character.isDigit) : isWordCharacter character := by
  have last : character.toNat ≤ 57 := (Char.isDigit_iff_toNat.1 digit).2
  have ascii : character.toNat < 0x80 := by omega
  rw [isWordCharacter, if_pos ascii, Char.isAlphanum, digit]
  simp

/-- A character outside ASCII comes after each one in it. -/
theorem not_le_of_not_ascii {character last : Char}
    (large : ¬ character.toNat < 0x80) (low : last.toNat < 0x80) :
    ¬ character.val ≤ last.val := by
  rw [UInt32.le_iff_toNat_le]
  exact fun least => large (Nat.lt_of_le_of_lt least low)

/-- A character outside ASCII is its own lower-case form in ASCII. -/
theorem toLower_of_not_ascii {character : Char}
    (large : ¬ character.toNat < 0x80) : character.toLower = character :=
  dif_neg fun upper => not_le_of_not_ascii large (by decide) upper.2

/-- A character folds to a letter if its lower-case form is one. -/
theorem foldsToLetter_of_isLower_toLower {character : Char}
    (lower : character.toLower.isLower) : foldsToLetter character := by
  rw [foldsToLetter, foldCharacter]
  split
  · rfl
  · rw [lowerCharacter]
    split
    · rfl
    · exact lower

/-- A character that folds to a letter belongs to words. -/
theorem isWordCharacter_of_foldsToLetter {character : Char}
    (letter : foldsToLetter character) : isWordCharacter character := by
  rw [foldsToLetter, foldCharacter] at letter
  split at letter
  · next long =>
      subst long
      decide +kernel
  rw [lowerCharacter] at letter
  split at letter
  · next kelvin =>
      subst kelvin
      decide +kernel
  · have ascii : character.toNat < 0x80 := by
      apply Decidable.byContradiction
      intro large
      rw [toLower_of_not_ascii large] at letter
      exact not_le_of_not_ascii large (by decide)
        (of_decide_eq_true (Bool.and_eq_true_iff.1 letter).2)
    have known : ∀ code < 0x80, (Char.ofNat code).toLower.isLower →
        isWordCharacter (Char.ofNat code) := by
      decide +kernel
    have facts := known _ ascii
    rw [Char.ofNat_toNat] at facts
    exact facts letter

namespace Text

/-- Whether the characters of a word fold to the letters of a keyword. -/
def Spells (word keyword : Text) : Prop :=
  word.map foldCharacter = keyword

instance (word keyword : Text) : Decidable (Spells word keyword) :=
  inferInstanceAs (Decidable (_ = _))

/-- A word that spells a keyword is dropped for it. -/
theorem dropKeyword?_append {word keyword : Text}
    (spells : Spells word keyword) (rest : Text) :
    dropKeyword? keyword (word ++ rest) = some rest := by
  subst spells
  induction word with
  | nil => rfl
  | cons character word ih =>
      rw [List.map_cons, List.cons_append, dropKeyword?, if_pos rfl]
      exact ih

/-- What follows a keyword follows a word that spells it. -/
theorem dropKeyword?_eq_some_iff {keyword text rest : Text} :
    dropKeyword? keyword text = some rest ↔
      ∃ word, Spells word keyword ∧ text = word ++ rest := by
  constructor
  · intro found
    fun_induction dropKeyword? keyword text with
    | case1 text =>
        cases found
        exact ⟨[], rfl, rfl⟩
    | case2 => cases found
    | case3 letters character rest' ih =>
        obtain ⟨word, spells, rfl⟩ := ih found
        exact ⟨character :: word, congrArg _ spells, rfl⟩
    | case4 => cases found
  · rintro ⟨word, spells, rfl⟩
    exact dropKeyword?_append spells rest

end Text

namespace LeadingSelect

open Text

/--
A keyword stands at the start of a text where a word spells it that ends
there.
-/
theorem afterKeyword?_eq_some_iff {keyword text rest : Text} :
    afterKeyword? keyword text = some rest ↔
      ∃ word, Spells word keyword ∧ text = word ++ rest ∧ endsWord rest := by
  rw [afterKeyword?, Option.filter_eq_some_iff, dropKeyword?_eq_some_iff]
  constructor
  · rintro ⟨⟨word, spells, whole⟩, ends⟩
    exact ⟨word, spells, whole, ends⟩
  · rintro ⟨word, spells, whole, ends⟩
    exact ⟨⟨word, spells, whole⟩, ends⟩

/--
No keyword begins with a mark: a character that is not blank and belongs to
no word.
-/
theorem afterKeyword?_trimStart_of_mark {letter mark : Char}
    (lower : letter.isLower) (solid : ¬ isBlank mark)
    (outside : ¬ isWordCharacter mark) (letters others : Text) :
    afterKeyword? (letter :: letters) (trimStart (mark :: others)) = none := by
  have other : foldCharacter mark ≠ letter := by
    rintro rfl
    exact outside (isWordCharacter_of_foldsToLetter lower)
  rw [trimStart, List.dropWhile_cons_of_neg solid, afterKeyword?, dropKeyword?,
    if_neg other, Option.filter_none]

/-- Blanks and the keyword DISTINCT, before the rest of a text. -/
inductive IsDistinct : Text → Text → Prop where
  | mk {blanks word rest : Text}
      (present : blanks ≠ []) (blank : ∀ character ∈ blanks, isBlank character)
      (spells : Spells word "distinct".toList) (ends : endsWord rest) :
      IsDistinct (blanks ++ word) rest

/--
The words that lead a query, before its rest: SELECT, and DISTINCT if that
follows.
-/
inductive IsSelect : Text → Text → Prop where
  | all {word rest : Text}
      (spells : Spells word "select".toList) (ends : endsWord rest)
      (other : ∀ words after, IsDistinct words after → rest ≠ words ++ after) :
      IsSelect word rest
  | distinct {word words rest : Text}
      (spells : Spells word "select".toList)
      (distinct : IsDistinct words rest) :
      IsSelect (word ++ words) rest

section Letters

variable {word letters : Text} {letter : Char} (lower : letter.isLower)
include lower

/-- A word that spells a keyword begins with its first letter. -/
theorem exists_cons_of_spells (spells : Spells word (letter :: letters)) :
    ∃ first others, word = first :: others ∧ foldCharacter first = letter ∧
      isWordCharacter first := by
  obtain ⟨first, others, rfl, folds, -⟩ := List.map_eq_cons_iff.1 spells
  refine ⟨first, others, rfl, folds, isWordCharacter_of_foldsToLetter ?_⟩
  rwa [foldsToLetter, folds]

/-- No blank stands before a word that spells a keyword. -/
theorem trimStart_of_spells (spells : Spells word (letter :: letters))
    (rest : Text) : trimStart (word ++ rest) = word ++ rest := by
  obtain ⟨first, others, rfl, -, inside⟩ := exists_cons_of_spells lower spells
  apply List.dropWhile_cons_of_neg
  intro blank
  exact (folds_and_ends_of_isBlank blank).2 inside

/-- No word ends before one that spells a keyword. -/
theorem not_endsWord_of_spells (spells : Spells word (letter :: letters))
    (rest : Text) : ¬ endsWord (word ++ rest) := by
  obtain ⟨first, others, rfl, -, inside⟩ := exists_cons_of_spells lower spells
  simpa [endsWord] using inside

end Letters

/-- DISTINCT is found after blanks where it stands there. -/
theorem afterKeyword?_trimStart_eq_some_iff {text rest : Text}
    (blank : ∃ character ∈ text.head?, isBlank character) :
    afterKeyword? "distinct".toList (trimStart text) = some rest ↔
      ∃ words, IsDistinct words rest ∧ text = words ++ rest := by
  rw [afterKeyword?_eq_some_iff]
  constructor
  · rintro ⟨word, spells, whole, ends⟩
    obtain ⟨character, first, blank⟩ := blank
    obtain ⟨others, rfl⟩ := List.head?_eq_some_iff.1 first
    have all := List.all_eq_true.1
      (List.all_takeWhile (p := isBlank) (l := character :: others))
    have present : (character :: others).takeWhile isBlank ≠ [] := by
      simp [blank]
    refine ⟨_, .mk present all spells ends, ?_⟩
    rw [List.append_assoc, ← whole]
    exact List.takeWhile_append_dropWhile.symm
  · rintro ⟨_, ⟨-, blanks, spells, ends⟩, rfl⟩
    refine ⟨_, spells, ?_, ends⟩
    rw [trimStart, List.append_assoc, List.dropWhile_append_of_pos blanks]
    exact trimStart_of_spells (by decide) spells rest

/-- A text begins with a blank if blanks and DISTINCT stand at its start. -/
theorem IsDistinct.head {words rest : Text} (distinct : IsDistinct words rest) :
    ∃ character ∈ (words ++ rest).head?, isBlank character := by
  obtain ⟨present, blank, -, -⟩ := distinct
  obtain ⟨character, others, rfl⟩ := List.exists_cons_of_ne_nil present
  exact ⟨character, rfl, blank character List.mem_cons_self⟩

/-- SELECT alone leads a query in which no DISTINCT is found after it. -/
theorem isSelect_of_afterKeyword?_eq_none {word rest : Text}
    (spells : Spells word "select".toList) (ends : endsWord rest)
    (missing : afterKeyword? "distinct".toList (trimStart rest) = none) :
    IsSelect word rest := by
  refine .all spells ends fun words after distinct whole => ?_
  have found := (afterKeyword?_trimStart_eq_some_iff (whole ▸ distinct.head)).2
    ⟨words, distinct, whole⟩
  rw [missing] at found
  cases found

/-- A word ends where the words that lead a query do. -/
theorem IsSelect.ends {keywords rest : Text} (select : IsSelect keywords rest) :
    endsWord rest := by
  cases select with
  | all _ ends => exact ends
  | distinct _ distinct =>
      obtain ⟨-, -, -, ends⟩ := distinct
      exact ends

/--
Blanks and DISTINCT are skipped where they stand at the start of a text, and
nothing else.
-/
theorem skipDistinct_eq_iff {text rest : Text} :
    skipDistinct text = rest ↔
      (∃ words, IsDistinct words rest ∧ text = words ++ rest) ∨
        (text = rest ∧
          ∀ words after, IsDistinct words after → text ≠ words ++ after) := by
  by_cases blank : ∃ character ∈ text.head?, isBlank character
  · have skipped : skipDistinct text =
        (afterKeyword? "distinct".toList (trimStart text)).getD text := by
      obtain ⟨character, first, blank⟩ := blank
      obtain ⟨others, rfl⟩ := List.head?_eq_some_iff.1 first
      exact if_pos blank
    rw [skipped]
    have found (after : Text) :
        afterKeyword? "distinct".toList (trimStart text) = some after ↔
          ∃ words, IsDistinct words after ∧ text = words ++ after :=
      afterKeyword?_trimStart_eq_some_iff blank
    cases known : afterKeyword? "distinct".toList (trimStart text) with
    | none =>
        simp only [known, reduceCtorEq, false_iff, not_exists, not_and] at found
        simp only [Option.getD_none]
        constructor
        · intro same
          exact .inr ⟨same, fun words after distinct =>
            found after words distinct⟩
        · rintro (⟨words, distinct, whole⟩ | ⟨same, -⟩)
          · exact absurd whole (found rest words distinct)
          · exact same
    | some after =>
        simp only [known, Option.some.injEq] at found
        rw [Option.getD_some, found rest]
        constructor
        · exact .inl
        · rintro (distinct | ⟨-, other⟩)
          · exact distinct
          · obtain ⟨words, distinct, whole⟩ := (found after).1 rfl
            exact absurd whole (other words after distinct)
  · have skipped : skipDistinct text = text := by
      cases text with
      | nil => rfl
      | cons character others =>
          exact if_neg fun isBlank => blank ⟨character, rfl, isBlank⟩
    have other : ∀ words after, IsDistinct words after →
        text ≠ words ++ after := by
      rintro words after distinct rfl
      exact blank distinct.head
    rw [skipped]
    constructor
    · intro same
      exact .inr ⟨same, other⟩
    · rintro (⟨words, distinct, whole⟩ | ⟨same, -⟩)
      · exact absurd whole (other words rest distinct)
      · exact same

/--
SELECT and DISTINCT are found at the start of a text where they stand there.
-/
theorem afterSelect?_eq_some_iff {text rest : Text} :
    afterSelect? text = some rest ↔
      ∃ keywords, IsSelect keywords rest ∧ text = keywords ++ rest := by
  simp only [afterSelect?, Option.map_eq_some_iff, afterKeyword?_eq_some_iff,
    skipDistinct_eq_iff]
  constructor
  · rintro ⟨_, ⟨word, spells, rfl, ends⟩, ⟨words, distinct, rfl⟩ | ⟨rfl, other⟩⟩
    · exact ⟨word ++ words, .distinct spells distinct, by simp⟩
    · exact ⟨word, .all spells ends other, rfl⟩
  · rintro ⟨_, ⟨spells, ends, other⟩ | ⟨spells, distinct⟩, rfl⟩
    · exact ⟨rest, ⟨_, spells, rfl, ends⟩, .inr ⟨rfl, other⟩⟩
    · refine ⟨_, ⟨_, spells, List.append_assoc _ _ _, ?_⟩,
        .inl ⟨_, distinct, rfl⟩⟩
      obtain ⟨character, first, blank⟩ := distinct.head
      obtain ⟨others, whole⟩ := List.head?_eq_some_iff.1 first
      rw [whole, endsWord]
      simpa using (folds_and_ends_of_isBlank blank).2

end LeadingSelect

end SqlAnywhere
