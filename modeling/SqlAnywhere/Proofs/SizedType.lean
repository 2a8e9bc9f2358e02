import SqlAnywhere.Proofs.TypeByName
import SqlAnywhere.Proofs.WrittenType

/-!
# Widths in type texts

A width in parentheses after the name of a type is its size, and can give its
portable type.  After any other text it is not read, and the text is described
as it is without it.
-/

namespace SqlAnywhere

open Text

namespace PortableType

/--
The name of a bit field or of a tiny integer is a small integer, however it
goes on.
-/
theorem ofTypeName_of_isNarrow {text leading : Text} {others : List Text}
    (plain : plainWords text = leading :: others)
    (narrow : ReportedType.IsNarrow leading) :
    ofTypeName text = .smallInt := by
  have known : ∀ entry ∈ vocabulary,
      ReportedType.IsNarrow (entry.1.takeWhile (· ≠ ' ')) →
        entry.2 = .smallInt := by
    decide +kernel
  have each : ∀ word ∈ leading :: others, IsWord word := by
    intro word member
    rw [← plain, plainWords_eq, ← words_lower] at member
    exact isWord_of_mem_words (dropUnsigned_subset _ member)
  have first : ofPlainName? leading = some .smallInt := by
    rcases narrow with rfl | rfl
    · decide
    · decide
  rw [ofTypeName, plain]
  cases found : ofPlainName? ([' '].intercalate (leading :: others)) with
  | none => simp only [List.head?_cons, Option.bind_some, first]; rfl
  | some portable =>
      obtain ⟨before, after, listed, -⟩ := List.lookup_eq_some_iff.1 found
      have member : ([' '].intercalate (leading :: others), portable) ∈
          vocabulary := by
        rw [listed]
        exact List.mem_append_right _ List.mem_cons_self
      refine known _ member ?_
      rwa [takeWhile_intercalate each]

end PortableType

namespace ReportedType

/-- Names of types: words of type names alone, and at least one. -/
structure IsTypeName (text : Text) : Prop where
  readable : Readable text
  present : words text ≠ []

instance (text : Text) : Decidable (IsTypeName text) :=
  decidable_of_iff (Readable text ∧ words text ≠ [])
    ⟨fun named => ⟨named.1, named.2⟩, fun named => ⟨named.readable, named.present⟩⟩

section Plain

variable {text : Text} (plain : '(' ∉ text)

include plain

/--
A text is described by the same words without a width and with one, which is
read only after the name of a type.
-/
theorem exists_ofWords :
    ∃ found unsigned,
      (∀ word ∈ found, IsWord word) ∧ (IsTypeName text → found ≠ []) ∧
        ofText text = ofWords found none unsigned ∧
        ∀ width,
          ofText (text ++ '(' :: Numeral.ofInt64 width ++ [')']) =
            ofWords found
              (if IsTypeName text then some (Numeral.ofInt64 width) else none)
              unsigned := by
  obtain ⟨read, unread, longest⟩ := exists_isLongestName text
  have whole : IsTypeName text → read = text ∧ unread = [] :=
    fun named => longest.unique (isLongestName_self named.readable)
  refine ⟨words read, hasFragment unsignedWord (lower text),
    fun _ => isWord_of_mem_words, fun named => ?_, ?_, fun width => ?_⟩
  · rw [(whole named).1]
    exact named.present
  · have nothing : ∀ next ∈ ([] : Text).head?, next = '(' := by simp
    have absent : argument? [] = none := rfl
    have described := ofText_of_isLongestName longest plain nothing
    rwa [List.append_nil, absent, ite_self] at described
  · have padded := Numeral.padded_ofInt64 width
    have argued : IsArgument (some width) none []
        ('(' :: Numeral.ofInt64 width ++ [')']) := .sized padded []
    have argument : argument? ('(' :: Numeral.ofInt64 width ++ [')']) =
        some (Numeral.ofInt64 width) :=
      argument?_of_notMem
        (padded.notMem (by decide) (by decide) (by decide)) []
    have marked : hasFragment unsignedWord
        (lower (text ++ ('(' :: Numeral.ofInt64 width ++ [')']))) =
          hasFragment unsignedWord (lower text) := by
      have absent : ¬ unsignedWord <:+: lower [] := by decide
      rw [Bool.eq_iff_iff, hasFragment_iff, hasFragment_iff, lower_append,
        argued.unsigned_infix_append_iff, or_iff_left absent]
    rw [List.append_assoc, ofText_of_isLongestName longest plain argued.opens,
      marked, argument]
    by_cases named : IsTypeName text
    · rw [if_pos (whole named).2, if_pos named]
    · rw [if_neg named]
      split
      · next reached =>
          -- The whole text was read, and there was no word in it.
          subst reached
          have all : text = read := by simpa using longest.whole
          have nothing : words read = [] := by
            by_contra present
            exact named ⟨all ▸ longest.readable, all ▸ present⟩
          rw [nothing]
          rfl
      · rfl

/-- A text without an argument gives no numbers. -/
theorem size_of_plain : (ofText text).size = none := by
  obtain ⟨found, unsigned, -, -, described, -⟩ := exists_ofWords plain
  rw [described, ofWords, ite_self]
  rfl

/-- A text without an argument has the type of its name. -/
theorem portable_of_plain :
    (ofText text).portable = .ofTypeName (ofText text).name := by
  have typed := (ofText text).portable_typedAs
  rw [size_of_plain plain] at typed
  exact typed.unique (.byName nofun)

/-- A bit field or a tiny integer without a width is a small integer. -/
theorem portable_of_isNarrow (narrow : IsNarrow (ofText text).leading) :
    (ofText text).portable = .smallInt := by
  obtain ⟨found, unsigned, each, -, described, -⟩ := exists_ofWords plain
  have name : (ofText text).name = [' '].intercalate (namedBy found) := by
    rw [described, ofWords]
  rw [leading, name, takeWhile_namedBy each] at narrow
  rw [portable_of_plain plain, name]
  cases words : namedBy found with
  | nil =>
      rw [words] at narrow
      exact absurd narrow (by decide)
  | cons first others =>
      rw [words, List.head?_cons, Option.getD_some] at narrow
      have marked : first ≠ unsignedWord := by
        rintro rfl
        exact absurd narrow (by decide)
      have plainly : plainWords ([' '].intercalate (first :: others)) =
          first :: others := by
        rw [← words, plainWords_namedBy each, words, dropUnsigned, if_neg marked]
      exact PortableType.ofTypeName_of_isNarrow plainly narrow

/--
A width after the name of a type is its size, and not read after any other
text.
-/
theorem ofText_sized (width : Int64) :
    ofText (text ++ '(' :: Numeral.ofInt64 width ++ [')']) =
      if IsTypeName text then { ofText text with size := some width }
      else ofText text := by
  obtain ⟨found, unsigned, -, present, described, sized⟩ := exists_ofWords plain
  rw [sized width, described]
  split
  · next named =>
      obtain ⟨first, others, rfl⟩ :=
        List.exists_cons_of_ne_nil (present named)
      rw [ofWords, ofWords]
      simp [readArgument_of_padded (Numeral.padded_ofInt64 width)]
  · rfl

/--
The portable type of the name of a type with a width: what the width gives,
else that of the name.
-/
theorem portable_sized (named : IsTypeName text) (width : Int64) :
    TypedAs (ofText text).leading (ofText text).portable (some width)
      (ofText (text ++ '(' :: Numeral.ofInt64 width ++ [')'])).portable := by
  rw [ofText_sized plain, if_pos named, portable_of_plain plain]
  exact portable_typedAs { ofText text with size := some width }

end Plain

end ReportedType

end SqlAnywhere
