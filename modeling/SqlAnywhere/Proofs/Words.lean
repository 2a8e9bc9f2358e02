import Mathlib.Data.List.Induction
import SqlAnywhere.Proofs.Keyword
import SqlAnywhere.Proofs.Trimming

/-!
# Words between blanks

The words of a text are what its blanks set apart.  A blank belongs to no word
and ends the one before it, so that the words of two texts with a blank between
them are those of the one and then those of the other, and words with blanks
put between them are found again.  Lower case keeps the blanks, and a fragment
without blanks lies within one word.
-/

namespace SqlAnywhere.Text

/-- A word: characters, and no blank among them. -/
structure IsWord (word : Text) : Prop where
  present : word ≠ []
  unbroken : ∀ character ∈ word, ¬ isBlank character

/-! ## Blanks end words -/

/-- A blank ends the word before it and belongs to no word. -/
theorem words_append_cons_of_isBlank {blank : Char} (isBlank : isBlank blank)
    (text rest : Text) :
    words (text ++ blank :: rest) = words text ++ words rest := by
  rw [words, List.splitOnP_append_cons text rest isBlank, List.filter_append,
    words, words]

/-- A blank before a text belongs to no word. -/
theorem words_cons_of_isBlank {character : Char} (blank : isBlank character)
    (text : Text) : words (character :: text) = words text :=
  words_append_cons_of_isBlank blank [] text

/-- Blanks before a text belong to no word. -/
theorem words_append_of_isBlankText {before : Text}
    (blank : IsBlankText before) (text : Text) :
    words (before ++ text) = words text := by
  induction before with
  | nil => rfl
  | cons character before ih =>
      obtain ⟨first, others⟩ := List.forall_mem_cons.1 blank
      rw [List.cons_append, words_cons_of_isBlank first, ih others]

/-- Blanks alone hold no word. -/
theorem words_of_isBlankText {text : Text} (blank : IsBlankText text) :
    words text = [] := by
  have kept := words_append_of_isBlankText blank []
  rwa [List.append_nil] at kept

/-- Blanks after a text belong to no word. -/
theorem words_append_blank (text : Text) {after : Text}
    (blank : IsBlankText after) : words (text ++ after) = words text := by
  cases after with
  | nil => rw [List.append_nil]
  | cons character after =>
      obtain ⟨first, others⟩ := List.forall_mem_cons.1 blank
      rw [words_append_cons_of_isBlank first, words_of_isBlankText others,
        List.append_nil]

/--
The words of two texts are those of the one and then those of the other,
where the first is empty or ends with a blank.
-/
theorem words_append {text : Text}
    (ends : ∀ last ∈ text.getLast?, isBlank last) (rest : Text) :
    words (text ++ rest) = words text ++ words rest := by
  cases found : text.getLast? with
  | none =>
      rw [List.getLast?_eq_none_iff.1 found]
      rfl
  | some last =>
      obtain ⟨front, rfl⟩ := List.getLast?_eq_some_iff.1 found
      have blank : isBlank last := ends last found
      have single : IsBlankText [last] := by simpa [IsBlankText] using blank
      rw [words_append_blank front single, List.append_assoc,
        List.singleton_append, words_append_cons_of_isBlank blank]

/-- A word holds itself alone. -/
theorem IsWord.words_eq {word : Text} (isWord : IsWord word) :
    words word = [word] := by
  have whole : word.splitOnP isBlank = [word] :=
    List.splitOnP_eq_singleton fun character member => by
      simpa using isWord.unbroken character member
  rw [words, whole]
  simpa using isWord.present

/-- A text that begins with no blank begins with its first word. -/
theorem exists_words_cons {character : Char} (solid : ¬ isBlank character)
    (text : Text) :
    ∃ word others,
      words (character :: text) = (character :: word) :: others := by
  rw [words, List.splitOnP_cons_eq_if_modifyHead, if_neg solid]
  cases parts : text.splitOnP isBlank with
  | nil => exact absurd parts (List.splitOnP_ne_nil _ _)
  | cons first others =>
      exact ⟨first, others.filter (!·.isEmpty), by simp⟩

/--
A text ends with a stretch without blanks, before which it is empty or has a
blank.
-/
theorem exists_last_stretch (text : Text) :
    ∃ front stretch,
      text = front ++ stretch ∧ (∀ last ∈ front.getLast?, isBlank last) ∧
        ∀ character ∈ stretch, ¬ isBlank character := by
  induction text using List.reverseRecOn with
  | nil => exact ⟨[], [], rfl, nofun, nofun⟩
  | append_singleton text character ih =>
      by_cases blank : isBlank character
      · refine ⟨text ++ [character], [], by simp, ?_, nofun⟩
        intro last member
        rw [List.getLast?_concat] at member
        cases member
        exact blank
      · obtain ⟨front, stretch, rfl, ends, solid⟩ := ih
        refine ⟨front, stretch ++ [character], by simp, ends, ?_⟩
        intro other member
        rcases List.mem_append.1 member with inside | last
        · exact solid other inside
        · rwa [List.mem_singleton.1 last]

/-! ## The characters of words -/

/-- The words of a text hold its characters in order, without the blanks. -/
theorem flatten_words (text : Text) :
    (words text).flatten = text.filter (!isBlank ·) := by
  rw [words, List.flatten_filter_not_isEmpty]
  induction text with
  | nil => rfl
  | cons character text ih =>
      rw [List.splitOnP_cons_eq_if_modifyHead]
      split
      · next blank => simp [blank, ih]
      · next solid =>
          cases parts : text.splitOnP isBlank with
          | nil => exact absurd parts (List.splitOnP_ne_nil _ _)
          | cons first others =>
              rw [parts] at ih
              simpa [solid] using ih

/-- The characters of a text that are not blank are those of its words. -/
theorem exists_mem_words_iff {text : Text} {character : Char} :
    (∃ word ∈ words text, character ∈ word) ↔
      character ∈ text ∧ ¬ isBlank character := by
  rw [← List.mem_flatten, flatten_words, List.mem_filter]
  simp

/-- The words of a text are words. -/
theorem isWord_of_mem_words {text word : Text} (member : word ∈ words text) :
    IsWord word := by
  refine ⟨?_, fun character inside =>
    (exists_mem_words_iff.1 ⟨word, member, inside⟩).2⟩
  rw [words, List.mem_filter] at member
  simpa using member.2

/-! ## Lower case -/

/--
Lower case makes no blank of a character, and no other character of a blank.
-/
theorem isBlank_lowerCharacter (character : Char) :
    isBlank (lowerCharacter character) = isBlank character := by
  by_cases ascii : character.toNat < 0x80
  · have known : ∀ code < 0x80,
        isBlank (lowerCharacter (Char.ofNat code)) =
          isBlank (Char.ofNat code) := by
      decide +kernel
    have same := known _ ascii
    rwa [Char.ofNat_toNat] at same
  · rw [lowerCharacter]
    split
    · next kelvin =>
        rw [kelvin]
        rfl
    · rw [toLower_of_not_ascii ascii]

/-- A character in lower case is its own lower-case form. -/
theorem lowerCharacter_lowerCharacter (character : Char) :
    lowerCharacter (lowerCharacter character) = lowerCharacter character := by
  by_cases ascii : character.toNat < 0x80
  · have known : ∀ code < 0x80,
        lowerCharacter (lowerCharacter (Char.ofNat code)) =
          lowerCharacter (Char.ofNat code) := by
      decide +kernel
    have same := known _ ascii
    rwa [Char.ofNat_toNat] at same
  · have kept : lowerCharacter character = 'k' ∨
        lowerCharacter character = character := by
      rw [lowerCharacter]
      split
      · exact .inl rfl
      · exact .inr (toLower_of_not_ascii ascii)
    rcases kept with folded | same
    · rw [folded]
      rfl
    · rw [same, same]

/-- A text in lower case is its own lower-case form. -/
theorem lower_lower (text : Text) : lower (lower text) = lower text := by
  rw [lower, lower, List.map_map]
  exact List.map_congr_left fun character _ =>
    lowerCharacter_lowerCharacter character

/-- Blanks are in lower case. -/
theorem lower_of_isBlankText {text : Text} (blank : IsBlankText text) :
    lower text = text := by
  induction text with
  | nil => rfl
  | cons character text ih =>
      obtain ⟨first, others⟩ := List.forall_mem_cons.1 blank
      rw [lower, List.map_cons, lowerCharacter_of_isBlank first, ← lower,
        ih others]

/-- A word in lower case is one. -/
theorem IsWord.lower {word : Text} (isWord : IsWord word) :
    IsWord word.lower := by
  refine ⟨fun empty => isWord.present (List.map_eq_nil_iff.1 empty), ?_⟩
  intro character member
  obtain ⟨original, listed, rfl⟩ := List.mem_map.1 member
  rw [isBlank_lowerCharacter]
  exact isWord.unbroken original listed

/-- The words of a text in lower case are its words, in lower case. -/
theorem words_lower (text : Text) :
    words (lower text) = (words text).map lower := by
  have parts : (lower text).splitOnP isBlank =
      (text.splitOnP isBlank).map lower := by
    induction text with
    | nil => rfl
    | cons character text ih =>
        rw [lower, List.map_cons, List.splitOnP_cons_eq_if_modifyHead,
          List.splitOnP_cons_eq_if_modifyHead, isBlank_lowerCharacter, ← lower, ih]
        split
        · rfl
        · cases text.splitOnP isBlank with
          | nil => rfl
          | cons first others => rfl
  rw [words, parts, List.filter_map, words]
  congr 2
  funext part
  simp [lower]

/-! ## Words with blanks between them -/

/-- A text of words with at least one blank between each and the next. -/
inductive Spaced : List Text → Text → Prop where
  | single (word : Text) : Spaced [word] word
  | cons (word : Text) {gap : Text} {words : List Text} {text : Text}
      (blank : IsBlankText gap) (present : gap ≠ [])
      (rest : Spaced words text) :
      Spaced (word :: words) (word ++ gap ++ text)

theorem Spaced.ne_nil {parts : List Text} {text : Text}
    (spaced : Spaced parts text) : parts ≠ [] := by
  cases spaced with
  | single | cons => exact List.cons_ne_nil _ _

/-- Words joined by single spaces have blanks between them. -/
theorem spaced_intercalate {words : List Text} (present : words ≠ []) :
    Spaced words ([' '].intercalate words) := by
  induction words with
  | nil => exact absurd rfl present
  | cons word words ih =>
      cases words with
      | nil =>
          rw [List.intercalate_singleton]
          exact .single word
      | cons next words =>
          rw [List.intercalate_cons_cons]
          exact .cons word (by decide) (by decide) (ih (List.cons_ne_nil _ _))

/-- Words with blanks between them are found again. -/
theorem Spaced.words_eq {parts : List Text} {text : Text}
    (spaced : Spaced parts text)
    (each : ∀ part ∈ parts, IsWord part) : words text = parts := by
  induction spaced with
  | single word =>
      exact (each word (List.mem_singleton_self _)).words_eq
  | @cons word gap parts text blank present rest ih =>
      obtain ⟨isWord, others⟩ := List.forall_mem_cons.1 each
      obtain ⟨character, gap, rfl⟩ := List.exists_cons_of_ne_nil present
      obtain ⟨first, later⟩ := List.forall_mem_cons.1 blank
      rw [List.append_assoc, List.cons_append,
        words_append_cons_of_isBlank first, words_append_of_isBlankText later,
        isWord.words_eq, ih others]
      rfl

theorem lower_append (text rest : Text) :
    lower (text ++ rest) = lower text ++ lower rest :=
  List.map_append

/-- Words joined by single spaces are found again. -/
theorem words_intercalate {parts : List Text}
    (each : ∀ part ∈ parts, IsWord part) :
    words ([' '].intercalate parts) = parts := by
  cases parts with
  | nil => rfl
  | cons part parts =>
      exact (spaced_intercalate (List.cons_ne_nil _ _)).words_eq each

/--
The first of the words that are joined by single spaces is what precedes a
space.
-/
theorem takeWhile_intercalate {parts : List Text}
    (each : ∀ part ∈ parts, IsWord part) :
    ([' '].intercalate parts).takeWhile (· ≠ ' ') = parts.head?.getD [] := by
  cases parts with
  | nil => rfl
  | cons part parts =>
      have unbroken : ∀ character ∈ part, decide (character ≠ ' ') := by
        intro character member
        rw [decide_eq_true_eq]
        rintro rfl
        exact (each part List.mem_cons_self).unbroken _ member (by decide)
      cases parts with
      | nil =>
          rw [List.intercalate_singleton, List.takeWhile_eq_self_iff.2 unbroken]
          rfl
      | cons next parts =>
          rw [List.intercalate_cons_cons, List.append_assoc,
            List.takeWhile_append_of_pos unbroken]
          simp

/-- Lower case keeps the blanks between words. -/
theorem Spaced.lower {parts : List Text} {text : Text}
    (spaced : Spaced parts text) : Spaced (parts.map Text.lower) text.lower := by
  induction spaced with
  | single word => exact .single word.lower
  | cons word blank present rest ih =>
      rw [lower_append, lower_append, lower_of_isBlankText blank]
      exact .cons word.lower blank present ih

/-! ## Fragments -/

/-- A fragment is searched for at every place of a text. -/
theorem hasFragment_iff {fragment text : Text} :
    hasFragment fragment text ↔ fragment <:+: text := by
  induction text with
  | nil => simp [hasFragment]
  | cons character text ih =>
      rw [hasFragment, Bool.or_eq_true, ih, List.infix_cons_iff,
        List.isPrefixOf_iff_prefix]

/-- Nothing that lacks a mark begins with it. -/
theorem eq_nil_of_isPrefix_cons {fragment rest : Text} {mark : Char}
    (unmarked : mark ∉ fragment) (opens : fragment <+: mark :: rest) :
    fragment = [] := by
  cases fragment with
  | nil => rfl
  | cons first others =>
      obtain ⟨same, -⟩ := List.cons_prefix_cons.1 opens
      exact absurd (same ▸ List.mem_cons_self) unmarked

/-- A fragment lies on one side of a mark that it does not hold. -/
theorem infix_append_cons_iff {fragment : Text} {mark : Char}
    (unmarked : mark ∉ fragment) (before after : Text) :
    fragment <:+: before ++ mark :: after ↔
      fragment <:+: before ∨ fragment <:+: after := by
  constructor
  · intro inside
    rcases List.infix_append_iff.1 inside with first | second | across
    · exact .inl first
    · rcases List.infix_cons_iff.1 second with opens | later
      · rw [eq_nil_of_isPrefix_cons unmarked opens]
        exact .inl List.nil_infix
      · exact .inr later
    · obtain ⟨start, rest, rfl, ends, opens⟩ := across
      have unmarked' : mark ∉ rest :=
        fun member => unmarked (List.mem_append_right _ member)
      rw [eq_nil_of_isPrefix_cons unmarked' opens, List.append_nil]
      exact .inl ends.isInfix
  · rintro (first | second)
    · exact List.infix_append_of_infix_left first
    · exact List.infix_append_of_infix_right (List.infix_cons second)

/-- Texts that hold no character of a fragment. -/
def Apart (fragment text : Text) : Prop :=
  ∀ character ∈ text, character ∉ fragment

section Apart

variable {fragment : Text} (present : fragment ≠ [])

include present

/-- Other characters between two texts join no fragment. -/
theorem infix_append_apart_append_iff {between : Text}
    (apart : Apart fragment between) (some' : between ≠ [])
    (before after : Text) :
    fragment <:+: before ++ (between ++ after) ↔
      fragment <:+: before ∨ fragment <:+: after := by
  induction between generalizing before with
  | nil => exact absurd rfl some'
  | cons mark between ih =>
      obtain ⟨unmarked, others⟩ := List.forall_mem_cons.1 apart
      rw [List.cons_append, infix_append_cons_iff unmarked]
      cases between with
      | nil => rfl
      | cons next between =>
          have later := ih others (List.cons_ne_nil _ _) []
          rw [List.nil_append, List.infix_nil, or_iff_right present] at later
          rw [later]

/-- Other characters before a text bring no fragment. -/
theorem infix_apart_append_iff {before : Text} (apart : Apart fragment before)
    (text : Text) : fragment <:+: before ++ text ↔ fragment <:+: text := by
  cases before with
  | nil => rfl
  | cons mark before =>
      have sides := infix_append_apart_append_iff present apart
        (List.cons_ne_nil _ _) [] text
      rwa [List.nil_append, List.infix_nil, or_iff_right present] at sides

/-- Other characters after a text bring no fragment. -/
theorem infix_append_apart_iff {after : Text} (apart : Apart fragment after)
    (text : Text) : fragment <:+: text ++ after ↔ fragment <:+: text := by
  cases after with
  | nil => rw [List.append_nil]
  | cons mark after =>
      have sides := infix_append_apart_append_iff present apart
        (List.cons_ne_nil _ _) text []
      rwa [List.append_nil, List.infix_nil, or_iff_left present] at sides

/--
A fragment without blanks occurs among words with blanks between them where
it occurs in one.
-/
theorem Spaced.infix_iff {parts : List Text} {text : Text}
    (spaced : Spaced parts text)
    (unbroken : ∀ character ∈ fragment, ¬ isBlank character) :
    fragment <:+: text ↔ ∃ part ∈ parts, fragment <:+: part := by
  induction spaced with
  | single word => simp
  | @cons word gap parts text blank some' rest ih =>
      have apart : Apart fragment gap :=
        fun character member inside =>
          unbroken character inside (blank character member)
      rw [List.append_assoc, infix_append_apart_append_iff present apart some',
        ih]
      simp only [List.mem_cons, exists_eq_or_imp]

end Apart

end SqlAnywhere.Text
