import SqlAnywhere.Proofs.TranslatedType
import SqlAnywhere.Proofs.TypeWidth
import SqlAnywhere.Proofs.WrittenType

/-!
# Declared types read back

A specification with a size, and perhaps a scale, is written with the
server's name for its type.  The catalog then reports that name with the same
numbers and with what followed them, and this is read as the portable type
that was specified and as its size and scale.
-/

namespace SqlAnywhere

namespace Numeral

theorem ofInt64_ne_nil (number : Int64) : ofInt64 number ≠ [] := by
  intro empty
  have read := readInt64?_ofInt64 number
  rw [empty] at read
  cases read

/-- A number stands on one line. -/
theorem notMem_ofInt64 (number : Int64) : '\n' ∉ ofInt64 number := by
  intro member
  rcases mem_ofInt64 member with sign | digit
  · exact absurd sign (by decide)
  · exact absurd digit (by decide)

end Numeral

namespace ReportedType

open Text Numeral Specification

/--
The portable types that are declared with a size and reported by a name of
their own.
-/
def sizedTypes : List PortableType :=
  [.char, .varchar, .string, .decimal, .binary]

/-- The server's name for a sized type is one word that names the type. -/
structure IsNamedAs (portable : PortableType) (name : Text) : Prop where
  typed : IsTypeWord name
  kept : namedBy [name] = [name]
  named : .ofTypeName name = portable
  wide : ¬ IsNarrow name

/-- The server has a name and an argument for each sized type. -/
theorem exists_declaration {portable : PortableType}
    (sized : portable ∈ sizedTypes) :
    ∃ name argument,
      portable.declaration = ⟨name, some argument⟩ ∧
        IsNamedAs portable name := by
  simp only [sizedTypes, List.mem_cons, List.not_mem_nil, or_false] at sized
  rcases sized with rfl | rfl | rfl | rfl | rfl
  all_goals
    exact ⟨_, _, rfl, by decide +kernel, by decide +kernel, by decide +kernel,
      by decide +kernel⟩

/--
A type is read from the server's name for it and an argument, with the
argument's numbers.
-/
theorem ofText_of_isNamedAs {portable : PortableType} {name : Text}
    (called : IsNamedAs portable name) {size scale : Option Int64}
    {trailing rest : Text} (argued : IsArgument size scale trailing rest) :
    let reported := ofText (name ++ rest)
    reported.size = size ∧ reported.scale = scale ∧
      reported.portable = portable := by
  intro reported
  have blank : IsBlankText [] := by decide
  have read := ofText_of_spaced (List.forall_mem_singleton.2 called.typed)
    blank (.single name) blank argued
  rw [called.kept, List.intercalate_singleton, List.nil_append,
    List.append_nil] at read
  have server : reported.name = name := congrArg ReportedType.name read
  have first : reported.leading = name := by
    rw [leading, server, List.takeWhile_eq_self_iff]
    intro character member
    rw [decide_eq_true_eq]
    rintro rfl
    exact called.typed.isWord.unbroken _ member (by decide)
  refine ⟨congrArg ReportedType.size read, congrArg ReportedType.scale read, ?_⟩
  rw [portable_of_not_narrow, server, called.named]
  rw [first]
  exact called.wide

/--
A specification of a sized type is read back from the server's type for it,
with the numbers of its argument.
-/
theorem ofText_toPhysical {portable : PortableType}
    (sized : portable ∈ sizedTypes) {name : Text}
    (named : sameLetters portable.name name) {argument suffix : Text}
    (filled : argument ≠ []) (unclosed : ')' ∉ argument)
    (line : '\n' ∉ argument ++ suffix) {size scale : Option Int64}
    (argued : IsArgument size scale suffix ('(' :: argument ++ ')' :: suffix)) :
    let reported :=
      ofText (toPhysical (name ++ '(' :: argument ++ ')' :: suffix))
    reported.size = size ∧ reported.scale = scale ∧
      reported.portable = portable := by
  obtain ⟨server, default, declared, called⟩ := exists_declaration sized
  have written :
      (portable.declaration.withArgument argument).toText ++ suffix =
        server ++ ('(' :: argument ++ ')' :: suffix) := by
    simp [declared, Declaration.withArgument, Declaration.toText]
  rw [toPhysical_of_argument named filled unclosed, if_neg line, written]
  exact ofText_of_isNamedAs called argued

/--
A type with a size, and one with a size and a scale, are read back from what
a specification is written as: with the portable type that was specified and
with its numbers, whatever follows them on the line.
-/
theorem sized_type_read_back {portable : PortableType}
    (sized : portable ∈ sizedTypes) {name : Text}
    (named : sameLetters portable.name name) (size scale : Int64)
    {suffix : Text} (line : '\n' ∉ suffix) :
    let sizedAs := ofText (toPhysical
      (name ++ '(' :: ofInt64 size ++ ')' :: suffix))
    let scaledAs := ofText (toPhysical
      (name ++ '(' :: (ofInt64 size ++ ',' :: ofInt64 scale) ++ ')' :: suffix))
    (sizedAs.size = some size ∧ sizedAs.scale = none ∧
      sizedAs.portable = portable) ∧
    (scaledAs.size = some size ∧ scaledAs.scale = some scale ∧
      scaledAs.portable = portable) := by
  have unclosed (number : Int64) : ')' ∉ ofInt64 number :=
    (padded_ofInt64 number).notMem (by decide) (by decide) (by decide)
  constructor
  · refine ofText_toPhysical sized named (ofInt64_ne_nil size) (unclosed size) ?_
      (.sized (padded_ofInt64 size) suffix)
    simp [notMem_ofInt64, line]
  · refine ofText_toPhysical sized named ?_ ?_ ?_
      (.scaled (padded_ofInt64 size) (padded_ofInt64 scale) suffix)
    · simp
    · simp [unclosed]
    · simp [notMem_ofInt64, line]

/--
A name in other letters, a size below zero, and modifiers that hold
parentheses and the word for unsigned.
-/
theorem string_read_back :
    let suffix := " UNSIGNED DEFAULT fill(7)".toList
    let sizedAs := "String".toList ++ '(' :: ofInt64 (-64) ++ ')' :: suffix
    let scaledAs := "String".toList ++
      '(' :: (ofInt64 (-64) ++ ',' :: ofInt64 2) ++ ')' :: suffix
    toPhysical sizedAs = "nvarchar(-64) UNSIGNED DEFAULT fill(7)".toList ∧
      (ofText (toPhysical sizedAs)).size = some (-64) ∧
      (ofText (toPhysical scaledAs)).scale = some 2 ∧
      (ofText (toPhysical scaledAs)).portable = .string := by
  have named : sameLetters (PortableType.name .string) "String".toList := by
    decide
  have line : '\n' ∉ " UNSIGNED DEFAULT fill(7)".toList := by decide
  obtain ⟨⟨size, -, -⟩, -, scale, portable⟩ :=
    sized_type_read_back (by decide) named (-64) 2 line
  exact ⟨by decide +kernel, size, scale, portable⟩

end ReportedType

end SqlAnywhere
