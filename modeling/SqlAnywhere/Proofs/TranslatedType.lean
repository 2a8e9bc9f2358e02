import SqlAnywhere.ColumnType.Specification
import SqlAnywhere.Proofs.Keyword
import SqlAnywhere.Proofs.SegmentGrammar

/-!
# Specifications over several lines

A specification begins with the name of a portable type, and either an argument
in parentheses or modifiers after blanks follow.  It is written with the
server's type where the argument and the modifiers stand on one line.  A line
break in the argument, in what follows it, or among modifiers keeps the
specification as it is, with the portable name in it; only the blanks between
the name and the modifiers can hold one.
-/

namespace SqlAnywhere

/-! ## Names of portable types -/

namespace PortableType

variable {portable : PortableType} {text : Text}

/-- A name in any case is read as the type that has it. -/
theorem ofName?_eq_some_iff :
    ofName? text = some portable ↔ Text.sameLetters portable.name text := by
  refine ⟨sameLetters_of_ofName?, fun named => ?_⟩
  have letters := (Text.sameLetters_iff _ _).1 named
  have alike : ofName? text = ofName? portable.name := by
    simp only [ofName?, Text.sameLetters, letters]
  rw [alike, ofName?_name]

theorem isLower_toLower_of_mem_name (portable : PortableType) :
    ∀ letter ∈ portable.name, letter.toLower.isLower := by
  cases portable <;> exact Text.forall_mem_of_all (by decide)

/-- The name of a type in any case is one word. -/
theorem isWordCharacter_of_named
    (named : Text.sameLetters portable.name text) :
    ∀ character ∈ text, isWordCharacter character := by
  intro character member
  have lowered : portable.name.map Char.toLower = text.map Char.toLower :=
    (Text.sameLetters_iff _ _).1 named
  have listed : character.toLower ∈ portable.name.map Char.toLower :=
    lowered ▸ List.mem_map_of_mem member
  obtain ⟨letter, written, same⟩ := List.mem_map.1 listed
  apply isWordCharacter_of_foldsToLetter
  apply foldsToLetter_of_isLower_toLower
  rw [← same]
  exact portable.isLower_toLower_of_mem_name letter written

end PortableType

namespace Specification

open PortableType Segment

/-! ## What follows the name -/

/--
Whether a name ends before a text: with the specification, or before a blank
or an argument.
-/
def EndsName (rest : Text) : Prop :=
  ∀ next ∈ rest.head?, isBlank next ∨ next = '('

instance (rest : Text) : Decidable (EndsName rest) :=
  decidable_of_iff (rest.head?.all fun next => isBlank next || next == '(')
    (by simp [EndsName, Option.all_eq_true])

/--
Texts that follow a name as modifiers: nothing, or blanks with no argument
after them.
-/
structure IsModifiers (text : Text) : Prop where
  apart : ∀ first ∈ text.head?, isBlank first
  noArgument : (Text.trimStart text).head? ≠ some '('

instance (text : Text) : Decidable (IsModifiers text) :=
  decidable_of_iff
    (text.head?.all isBlank ∧ (Text.trimStart text).head? ≠ some '(')
    ⟨fun follows => ⟨(Option.all_eq_true _ _).1 follows.1, follows.2⟩,
      fun follows =>
        ⟨(Option.all_eq_true _ _).2 follows.apart, follows.noArgument⟩⟩

/-- Texts that begin with the name of a portable type. -/
def IsTyped (specification : Text) : Prop :=
  ∃ (portable : PortableType) (name rest : Text),
    specification = name ++ rest ∧
      Text.sameLetters portable.name name ∧ EndsName rest

/--
A text in which an argument takes the place of the one in parentheses at its
end; a text without parentheses stays the same.
-/
inductive Resizes (argument : Text) : Text → Text → Prop where
  | replaced {name old : Text} (plain : '(' ∉ name) :
      Resizes argument (name ++ '(' :: old ++ [')'])
        (name ++ '(' :: argument ++ [')'])
  | kept {name : Text} (plain : '(' ∉ name) : Resizes argument name name

/-- An argument takes the place of the default one of a type. -/
theorem resizes_withArgument (portable : PortableType) (argument : Text) :
    Resizes argument portable.declaration.toText
      (portable.declaration.withArgument argument).toText := by
  have plain : '(' ∉ portable.declaration.name := by
    cases portable <;> decide
  cases declared : portable.declaration with
  | mk name default =>
      rw [declared] at plain
      cases default with
      | none => exact .kept plain
      | some old => exact .replaced plain

theorem EndsName.not_isWordCharacter {rest : Text} (ends : EndsName rest) :
    ∀ next ∈ rest.head?, ¬ isWordCharacter next := by
  intro next member
  rcases ends next member with blank | rfl
  · exact (folds_and_ends_of_isBlank blank).2
  · decide

theorem IsModifiers.endsName {text : Text} (modifiers : IsModifiers text) :
    EndsName text :=
  fun next member => .inl (modifiers.apart next member)

/-! ## How a specification is translated -/

/--
An argument ends at the first parenthesis that closes it, and neither it nor
what follows goes over a line.
-/
theorem sized?_of_argument {argument : Text} (filled : argument ≠ [])
    (unclosed : ')' ∉ argument) (modifiers : Text) :
    sized? ('(' :: (argument ++ ')' :: modifiers)) =
      if '\n' ∈ argument ++ modifiers then none
      else some (argument, modifiers) := by
  obtain ⟨first, inner, rfl⟩ := List.exists_cons_of_ne_nil filled
  have parts : cutWhile (· ≠ ')') (inner ++ ')' :: modifiers) =
      (inner, ')' :: modifiers) := by
    refine cutWhile_of_all ?_ (by simp)
    intro character member
    rw [decide_eq_true_eq]
    rintro rfl
    exact unclosed (List.mem_cons_of_mem _ member)
  have inside : (inner ++ ')' :: modifiers).takeWhile (· ≠ ')') = inner :=
    congrArg Prod.fst parts
  have after : (inner ++ ')' :: modifiers).dropWhile (· ≠ ')') =
      ')' :: modifiers := congrArg Prod.snd parts
  have broken : ('\n' ∈ first :: (inner ++ ')' :: modifiers) ∨
      ')' ∉ inner ++ ')' :: modifiers) ↔
        '\n' ∈ first :: inner ++ modifiers := by
    simp
  have opening : Text.trimStart ('(' :: (first :: inner ++ ')' :: modifiers)) =
      '(' :: first :: (inner ++ ')' :: modifiers) := rfl
  rw [sized?, opening]
  simp only [broken, inside, after]
  rfl

section Named

variable {portable : PortableType} {name : Text}
  (named : Text.sameLetters portable.name name)

include named

/-- The name of a type is the first word of a specification. -/
theorem cutWhile_append {rest : Text} (ends : EndsName rest) :
    (name ++ rest).takeWhile isWordCharacter = name ∧
      (name ++ rest).dropWhile isWordCharacter = rest := by
  have parts : cutWhile isWordCharacter (name ++ rest) = (name, rest) :=
    cutWhile_of_all (isWordCharacter_of_named named) ends.not_isWordCharacter
  exact Prod.mk.inj parts

/-- The name decides the server's type, and what follows it the rest. -/
theorem toPhysical_append {rest : Text} (ends : EndsName rest) :
    toPhysical (name ++ rest) =
      match sized? rest with
      | some (argument, modifiers) =>
          (portable.declaration.withArgument argument).toText ++ modifiers
      | none =>
          if rest.isEmpty || isModified rest then
            portable.declaration.toText ++ rest
          else
            name ++ rest := by
  obtain ⟨first, second⟩ := cutWhile_append named ends
  have read : ofName? name = some portable := ofName?_eq_some_iff.2 named
  cases argued : sized? rest with
  | none => simp only [toPhysical, first, second, read, argued]
  | some parts => simp only [toPhysical, first, second, read, argued]

theorem toPhysical_of_modifiers {modifiers : Text}
    (follows : IsModifiers modifiers) :
    toPhysical (name ++ modifiers) =
      if '\n' ∈ Text.trimStart modifiers then name ++ modifiers
      else portable.declaration.toText ++ modifiers := by
  have unsized : sized? modifiers = none := by
    rw [sized?]
    split
    · next opening => exact absurd (by rw [opening]; rfl) follows.noArgument
    · rfl
  rw [toPhysical_append named follows.endsName, unsized]
  cases modifiers with
  | nil => rfl
  | cons first others =>
      have blank : isBlank first := follows.apart first rfl
      simp [isModified, blank]

theorem toPhysical_of_argument {argument : Text} (filled : argument ≠ [])
    (unclosed : ')' ∉ argument) (modifiers : Text) :
    toPhysical (name ++ '(' :: argument ++ ')' :: modifiers) =
      if '\n' ∈ argument ++ modifiers then
        name ++ '(' :: argument ++ ')' :: modifiers
      else
        (portable.declaration.withArgument argument).toText ++ modifiers := by
  have ends : EndsName ('(' :: argument ++ ')' :: modifiers) :=
    fun next member => .inr (by cases member; rfl)
  rw [List.append_assoc, toPhysical_append named ends, List.cons_append,
    sized?_of_argument filled unclosed]
  by_cases broken : '\n' ∈ argument ++ modifiers
  · rw [if_pos broken, if_pos broken]
    rfl
  · rw [if_neg broken, if_neg broken]

end Named

/--
A text begins with the name of a type if its first word is one and ends
there.
-/
theorem isTyped_iff {specification : Text} :
    IsTyped specification ↔
      (ofName? (specification.takeWhile isWordCharacter)).isSome ∧
        EndsName (specification.dropWhile isWordCharacter) := by
  constructor
  · rintro ⟨portable, name, rest, rfl, named, ends⟩
    obtain ⟨first, second⟩ := cutWhile_append named ends
    rw [first, second, ofName?_eq_some_iff.2 named]
    exact ⟨rfl, ends⟩
  · rintro ⟨read, ends⟩
    obtain ⟨portable, read⟩ := Option.isSome_iff_exists.1 read
    exact ⟨portable, _, _, List.takeWhile_append_dropWhile.symm,
      ofName?_eq_some_iff.1 read, ends⟩

instance (specification : Text) : Decidable (IsTyped specification) :=
  decidable_of_iff _ isTyped_iff.symm

/--
A text that begins with no name of a type, or in which the name goes on, is
kept.
-/
theorem toPhysical_of_not_isTyped {specification : Text}
    (other : ¬ IsTyped specification) :
    toPhysical specification = specification := by
  rw [toPhysical]
  split
  · rfl
  · next portable read =>
      have goesOn : ¬ EndsName (specification.dropWhile isWordCharacter) :=
        fun ends => other (isTyped_iff.2 ⟨by rw [read]; rfl, ends⟩)
      generalize specification.dropWhile isWordCharacter = rest at goesOn
      cases rest with
      | nil => exact absurd nofun goesOn
      | cons next others =>
          have solid : ¬ isBlank next :=
            fun blank => goesOn fun _ member => by cases member; exact .inl blank
          have noArgument : next ≠ '(' :=
            fun opening => goesOn fun _ member => by
              cases member
              exact .inr opening
          have unsized : sized? (next :: others) = none := by
            rw [sized?, Text.trimStart, List.dropWhile_cons_of_neg solid]
            split
            · next opening => exact absurd (List.cons.inj opening).1 noArgument
            · rfl
          simp [unsized, isModified, solid]

/--
A specification that begins with the name of a portable type, in any case.
Modifiers follow the server's type as they are, and an argument takes the
place of the default one; but the whole is kept where a line break stands
among the modifiers after their first blanks, in an argument or after it.  A
text that begins with no such name is kept.
-/
theorem translated_on_one_line (specification : Text) :
    (∀ (portable : PortableType) (name modifiers : Text),
      specification = name ++ modifiers →
        Text.sameLetters portable.name name → IsModifiers modifiers →
          toPhysical specification =
            if '\n' ∈ Text.trimStart modifiers then specification
            else portable.declaration.toText ++ modifiers) ∧
    (∀ (portable : PortableType) (name argument modifiers : Text),
      specification = name ++ '(' :: argument ++ ')' :: modifiers →
        Text.sameLetters portable.name name →
          argument ≠ [] → ')' ∉ argument →
            ∃ resized,
              Resizes argument portable.declaration.toText resized ∧
                toPhysical specification =
                  if '\n' ∈ argument ++ modifiers then specification
                  else resized ++ modifiers) ∧
    (¬ IsTyped specification → toPhysical specification = specification) := by
  refine ⟨?_, ?_, toPhysical_of_not_isTyped⟩
  · rintro portable name modifiers rfl named follows
    exact toPhysical_of_modifiers named follows
  · rintro portable name argument modifiers rfl named filled unclosed
    exact ⟨_, resizes_withArgument portable argument,
      toPhysical_of_argument named filled unclosed modifiers⟩

/--
Modifiers and an argument on one line, a line break before the modifiers and
one among them, and a name that goes on.
-/
theorem decimal_translated_on_one_line :
    (∃ resized,
      Resizes "10,2".toList "decimal(18,0)".toList resized ∧
        toPhysical "Decimal(10,2) NOT NULL".toList =
          resized ++ " NOT NULL".toList) ∧
      toPhysical "BOOLEAN NOT NULL".toList = "bit NOT NULL".toList ∧
      toPhysical "string\n NOT NULL".toList =
        "nvarchar(255)\n NOT NULL".toList ∧
      toPhysical "string NOT\nNULL".toList = "string NOT\nNULL".toList ∧
      toPhysical "texts".toList = "texts".toList := by
  refine ⟨?_, ?_, ?_, ?_, ?_⟩
  · exact (translated_on_one_line _).2.1 .decimal "Decimal".toList
      "10,2".toList " NOT NULL".toList rfl (by decide) (by decide) (by decide)
  · exact (translated_on_one_line _).1 .boolean "BOOLEAN".toList
      " NOT NULL".toList rfl (by decide) (by decide)
  · exact (translated_on_one_line _).1 .string "string".toList
      "\n NOT NULL".toList rfl (by decide) (by decide)
  · exact (translated_on_one_line _).1 .string "string".toList
      " NOT\nNULL".toList rfl (by decide) (by decide)
  · exact (translated_on_one_line _).2.2 (by decide)

/--
A line break after the argument leaves the portable name in the
specification.
-/
theorem string_kept_over_lines :
    let argument := "64".toList
    let modifiers := "\nNOT NULL".toList
    let specification := "string".toList ++ '(' :: argument ++ ')' :: modifiers
    (argument ≠ [] ∧ ')' ∉ argument) ∧
      (PortableType.declaration .string).toText = "nvarchar(255)".toList ∧
      toPhysical specification = "string(64)\nNOT NULL".toList ∧
      toPhysical specification ≠ "nvarchar(64)\nNOT NULL".toList ∧
      toPhysical "boolean NOT NULL\nDEFAULT 0".toList =
        "boolean NOT NULL\nDEFAULT 0".toList := by
  intro argument modifiers specification
  exact ⟨by decide, by decide, by decide, by decide, by decide⟩

end Specification

end SqlAnywhere
