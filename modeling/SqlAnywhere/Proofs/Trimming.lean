import Mathlib.Data.List.TakeWhile
import SqlAnywhere.Text.Blank

/-!
# Trimming

What is trimmed off a text are the blanks before and after the rest.  Blanks
put around a text are therefore trimmed off again together with its own, and a
text without blanks is left as it is.
-/

namespace SqlAnywhere

/-- Texts of blanks alone. -/
def IsBlankText (text : Text) : Prop :=
  ∀ character ∈ text, isBlank character

instance (text : Text) : Decidable (IsBlankText text) :=
  decidable_of_iff (text.all isBlank) List.all_eq_true

namespace Text

theorem isBlankText_reverse {text : Text} (blank : IsBlankText text) :
    IsBlankText text.reverse := by
  intro character member
  exact blank character (List.mem_reverse.1 member)

theorem trimStart_append_of_isBlankText
    {before : Text} (blank : IsBlankText before) (text : Text) :
    trimStart (before ++ text) = trimStart text :=
  List.dropWhile_append_of_pos blank

theorem trimEnd_append_of_isBlankText
    (text : Text) {after : Text} (blank : IsBlankText after) :
    trimEnd (text ++ after) = trimEnd text := by
  rw [trimEnd, List.reverse_append,
    List.dropWhile_append_of_pos (isBlankText_reverse blank), trimEnd]

/-- Nothing is left of blanks. -/
theorem trim_of_isBlankText {text : Text} (blank : IsBlankText text) :
    trim text = [] := by
  rw [trim, trimStart, List.dropWhile_eq_nil_iff.2 blank]
  rfl

/-- Blanks around a text are trimmed off with its own. -/
theorem trim_append_of_isBlankText
    {before after : Text} (blank : IsBlankText before) (text : Text)
    (blank' : IsBlankText after) :
    trim (before ++ text ++ after) = trim text := by
  rw [trim, List.append_assoc, trimStart_append_of_isBlankText blank, trim,
    trimStart, List.dropWhile_append]
  split
  · next nothing =>
      rw [trimStart, List.isEmpty_iff.1 nothing]
      exact trim_of_isBlankText blank'
  · exact trimEnd_append_of_isBlankText _ blank'

/-- A text is what it is trimmed to, between blanks. -/
theorem exists_blanks_around_trim (text : Text) :
    ∃ before after,
      IsBlankText before ∧ IsBlankText after ∧
        text = before ++ trim text ++ after := by
  refine ⟨text.takeWhile isBlank,
    ((trimStart text).reverse.takeWhile isBlank).reverse, ?_, ?_, ?_⟩
  · intro character member
    exact List.mem_takeWhile_imp member
  · apply isBlankText_reverse
    intro character member
    exact List.mem_takeWhile_imp member
  · rw [List.append_assoc, trim, trimEnd, ← List.reverse_append,
      List.takeWhile_append_dropWhile, List.reverse_reverse, trimStart,
      List.takeWhile_append_dropWhile]

/-- Nothing but blanks is trimmed to nothing. -/
theorem trim_eq_nil_iff {text : Text} : trim text = [] ↔ IsBlankText text := by
  refine ⟨fun nothing => ?_, trim_of_isBlankText⟩
  obtain ⟨before, after, blank, blank', shape⟩ := exists_blanks_around_trim text
  rw [shape, nothing, List.append_nil]
  intro character member
  rcases List.mem_append.1 member with first | last
  · exact blank character first
  · exact blank' character last

/--
A text that begins and ends with other characters than blanks is left as it
is.
-/
theorem trim_of_ends {first last : Char} (begins : ¬ isBlank first)
    (ends : ¬ isBlank last) (inner : Text) :
    trim (first :: inner ++ [last]) = first :: inner ++ [last] := by
  have start : trimStart (first :: inner ++ [last]) =
      first :: inner ++ [last] :=
    List.dropWhile_cons_of_neg begins
  rw [trim, start, trimEnd, List.reverse_concat,
    List.dropWhile_cons_of_neg ends, ← List.reverse_concat,
    List.reverse_reverse]

/-- A text without blanks is left as it is. -/
theorem trim_of_forall_not_isBlank
    {text : Text} (solid : ∀ character ∈ text, ¬ isBlank character) :
    trim text = text := by
  have kept (part : Text) (solid : ∀ character ∈ part, ¬ isBlank character) :
      part.dropWhile isBlank = part := by
    rw [List.dropWhile_eq_self_iff]
    intro _
    exact solid _ (List.getElem_mem _)
  have reversed : ∀ character ∈ text.reverse, ¬ isBlank character := by
    intro character member
    exact solid character (List.mem_reverse.1 member)
  rw [trim, trimStart, kept text solid, trimEnd, kept _ reversed,
    List.reverse_reverse]

/-- A trimmed text is left as it is. -/
theorem trim_trim (text : Text) : trim (trim text) = trim text := by
  obtain ⟨before, after, blank, blank', whole⟩ := exists_blanks_around_trim text
  have same := trim_append_of_isBlankText blank (trim text) blank'
  rw [← whole] at same
  exact same.symm

/-- No blank stands at the end of what is left without the blanks there. -/
theorem not_isBlank_of_mem_getLast?_trimEnd {text : Text} {last : Char}
    (member : last ∈ (trimEnd text).getLast?) : ¬ isBlank last := by
  rw [trimEnd, List.getLast?_reverse] at member
  have kept := List.head?_dropWhile_not isBlank text.reverse
  rw [Option.mem_def.1 member] at kept
  simpa using kept

/--
A text that is left as it is begins and ends with other characters than
blanks.
-/
theorem not_isBlank_of_trim_eq_self {text : Text} (trimmed : trim text = text) :
    (∀ first ∈ text.head?, ¬ isBlank first) ∧
      ∀ last ∈ text.getLast?, ¬ isBlank last := by
  constructor
  · intro first member
    obtain ⟨others, rfl⟩ := List.head?_eq_some_iff.1 member
    -- A blank at the start would be lost, and the text shorter.
    intro blank
    have shorter : (trim (first :: others)).length ≤ others.length := by
      rw [trim, trimEnd, List.length_reverse, trimStart,
        List.dropWhile_cons_of_pos blank]
      refine (List.dropWhile_sublist isBlank).length_le.trans ?_
      rw [List.length_reverse]
      exact (List.dropWhile_sublist isBlank).length_le
    rw [trimmed, List.length_cons] at shorter
    omega
  · intro last member
    rw [← trimmed] at member
    exact not_isBlank_of_mem_getLast?_trimEnd member

end Text

end SqlAnywhere
