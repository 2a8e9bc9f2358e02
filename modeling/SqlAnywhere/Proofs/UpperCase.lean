import Mathlib
import SqlAnywhere.Text.LetterCase
import SqlAnywhere.Text.UpperCase

/-!
# Upper case, ASCII case and the dot

Keys are built in upper case, while owners and names are compared in ASCII
case.  Texts that differ in ASCII case alone have one upper-case form, and no
character but the dot brings a dot into it, so that a dot separates the parts
of a key for whatever text the parts are.
-/

namespace SqlAnywhere

/-! ## Characters -/

/-- The upper-case form does not depend on the ASCII case of a character. -/
@[simp]
theorem upperCharacter_toLower (character : Char) :
    upperCharacter character.toLower = upperCharacter character := by
  by_cases upper : character.isUpper
  · have bound : character.toNat ≤ 90 := by
      simp only [Char.isUpper, decide_eq_true_eq,
        UInt32.le_iff_toNat_le] at upper
      exact upper.2
    have small : character.toNat < 0x80 := by omega
    have lowered : character.toLower.toNat < 0x80 := by
      rw [Char.toLower_eq_of_isUpper upper, Char.toNat_ofNat,
        if_pos (Or.inl (by omega))]
      omega
    simp only [upperCharacter, small, lowered, if_true,
      Char.toUpper_toLower_eq_toUpper]
  · rw [Char.toLower_eq_of_not_isUpper upper]

/-- No code point above the dot stands for the dot. -/
theorem ofNat_ne_dot {code : Nat} (above : 0x2E < code) :
    Char.ofNat code ≠ '.' := by
  intro dot
  have codes : (Char.ofNat code).toNat = 0x2E := by rw [dot]; rfl
  rw [Char.toNat_ofNat] at codes
  split at codes <;> omega

/-- No letter with several upper-case letters has a dot among them. -/
theorem above_dot_of_mem_expansions :
    ∀ entry ∈ expansions, ∀ code ∈ entry.2, 0x2E < code := by
  decide +kernel

/--
No row of letters begins with one whose upper-case letter is the dot or
below.
-/
theorem above_dot_of_mem_caseRows :
    ∀ row ∈ caseRows, (0x2E : Int) < row.first + row.distance := by
  decide +kernel

/-- A character outside ASCII has no dot in its upper-case form. -/
theorem dot_notMem_upperCharacter
    {character : Char}
    (large : ¬ character.toNat < 0x80) :
    '.' ∉ upperCharacter character := by
  rw [upperCharacter, if_neg large]
  split
  · next codes found =>
      obtain ⟨before, after, whole, -⟩ := List.lookup_eq_some_iff.1 found
      have entry : (character.toNat, codes) ∈ expansions := by
        simp [whole]
      intro dot
      obtain ⟨code, member, isDot⟩ := List.mem_map.1 dot
      exact ofNat_ne_dot (above_dot_of_mem_expansions _ entry code member)
        isDot
  · split
    · next row found =>
        have above :=
          above_dot_of_mem_caseRows row (List.mem_of_find?_eq_some found)
        have covered := List.find?_some found
        simp only [CaseRow.covers, Bool.and_eq_true, decide_eq_true_eq]
          at covered
        intro dot
        exact ofNat_ne_dot (by omega) (List.mem_singleton.1 dot).symm
    · intro dot
      rw [← List.mem_singleton.1 dot] at large
      exact large (by decide)

/-- Only the dot brings a dot into an upper-case form. -/
@[simp]
theorem dot_mem_upperCharacter_iff (character : Char) :
    '.' ∈ upperCharacter character ↔ character = '.' := by
  constructor
  · intro dot
    by_cases small : character.toNat < 0x80
    · rw [upperCharacter, if_pos small, List.mem_singleton] at dot
      by_cases lower : character.isLower
      · have letter := Char.isUpper_toUpper_eq_isAlpha character
        rw [← dot, Char.isAlpha, lower, Bool.or_true] at letter
        exact absurd letter (by decide)
      · rw [dot, Char.toUpper_eq_of_not_isLower lower]
    · exact absurd dot (dot_notMem_upperCharacter small)
  · rintro rfl
    decide

/-! ## Texts -/

namespace Text

/-- The upper-case form does not depend on the ASCII case of a text. -/
@[simp]
theorem upper_foldAscii (text : Text) : upper (foldAscii text) = upper text := by
  simp [upper, foldAscii, List.flatMap_map]

/-- Texts that differ in ASCII case alone have one upper-case form. -/
theorem upper_eq_of_sameLetters
    {first second : Text}
    (same : sameLetters first second) :
    upper first = upper second := by
  rw [← upper_foldAscii first, (sameLetters_iff first second).1 same,
    upper_foldAscii]

/-- A text of ASCII characters. -/
def IsAscii (text : Text) : Prop :=
  ∀ character ∈ text, character.toNat < 0x80

instance (text : Text) : Decidable (IsAscii text) :=
  List.decidableBAll (fun character : Char => character.toNat < 0x80) text

@[simp]
theorem isAscii_append (first second : Text) :
    IsAscii (first ++ second) ↔ IsAscii first ∧ IsAscii second :=
  List.forall_mem_append

/-- In ASCII every character has one upper-case character. -/
theorem upper_of_isAscii {text : Text} (ascii : IsAscii text) :
    upper text = text.map Char.toUpper := by
  induction text with
  | nil => rfl
  | cons character rest ih =>
      have small : character.toNat < 0x80 := ascii character (by simp)
      have others : upper rest = rest.map Char.toUpper :=
        ih fun other member => ascii other (List.mem_cons_of_mem _ member)
      rw [← List.singleton_append, upper_append, others]
      simp [upper, upperCharacter, small]

/-- ASCII texts with one upper-case form differ in ASCII case alone. -/
theorem sameLetters_of_upper_eq
    {first second : Text}
    (ascii : IsAscii first) (ascii' : IsAscii second)
    (equal : upper first = upper second) :
    sameLetters first second := by
  rw [upper_of_isAscii ascii, upper_of_isAscii ascii'] at equal
  have lowered := congrArg foldAscii equal
  rw [sameLetters_iff]
  simpa [foldAscii, Function.comp_def] using lowered

/-- The upper-case form of a text has a dot exactly where the text has one. -/
@[simp]
theorem dot_mem_upper_iff (text : Text) : '.' ∈ upper text ↔ '.' ∈ text := by
  simp [upper]

/-- The upper-case form of two parts with a dot between them. -/
theorem upper_append_dot (before after : Text) :
    upper (before ++ '.' :: after) = upper before ++ '.' :: upper after := by
  have dot : upper ['.'] = ['.'] := by decide
  rw [← List.singleton_append, upper_append, upper_append, dot,
    List.singleton_append]

end Text

end SqlAnywhere
