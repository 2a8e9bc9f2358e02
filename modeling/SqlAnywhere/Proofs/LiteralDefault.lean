import SqlAnywhere.ColumnType.Default
import SqlAnywhere.Proofs.Trimming

/-!
# Defaults of texts

The default of a column that holds texts is read by its ends: between two
quotes stands a literal, and anything else is an expression.  What stands
between the quotes is not looked at, so that an expression that begins with a
literal and ends with another one is read as a single text.
-/

namespace SqlAnywhere

open Text

/--
Whether the defaults of a type are read as texts, and not as numbers or truth
values.
-/
structure PortableType.HoldsTexts (portable : PortableType) : Prop where
  notInteger : ¬ portable.isInteger
  notFloat : ¬ portable.isFloat
  noOther : portable ∉ [PortableType.boolean, .decimal, .money]

namespace ColumnDefault

/-! ## Literals -/

/-- A text between quotes. -/
def enclosed (inner : Text) : Text :=
  '\'' :: inner ++ ['\'']

/-- The literal of a text: quotes in it are written twice. -/
def literal (value : Text) : Text :=
  enclosed (doubled '\'' value)

theorem enclosed_inj {inner inner' : Text} :
    enclosed inner = enclosed inner' ↔ inner = inner' := by
  simp [enclosed]

/--
What is read from a quoted text is what stands between the quotes, with each
pair read as one.
-/
theorem unquote?_eq_some_iff {source value : Text} :
    unquote? source = some value ↔
      ∃ inner, source = enclosed inner ∧ undoubled '\'' inner = value := by
  constructor
  · intro found
    rw [unquote?.eq_def] at found
    split at found
    · next rest =>
        split at found
        · next last =>
            obtain ⟨inner, rfl⟩ := List.getLast?_eq_some_iff.1 last
            rw [List.dropLast_concat] at found
            exact ⟨inner, rfl, Option.some.inj found⟩
        · cases found
    · cases found
  · rintro ⟨inner, rfl, rfl⟩
    simp [enclosed, unquote?]

theorem unquote?_eq_none_iff {source : Text} :
    unquote? source = none ↔ ∀ inner, source ≠ enclosed inner := by
  constructor
  · rintro missing inner rfl
    rw [unquote?_eq_some_iff.2 ⟨inner, rfl, rfl⟩] at missing
    cases missing
  · intro unquoted
    cases found : unquote? source with
    | none => rfl
    | some value =>
        obtain ⟨inner, whole, -⟩ := unquote?_eq_some_iff.1 found
        exact absurd whole (unquoted inner)

/-- Two literals are joined between the quotes of one text. -/
theorem literal_append_literal (first between second : Text) :
    literal first ++ between ++ literal second =
      enclosed (doubled '\'' first ++
        '\'' :: (between ++ '\'' :: doubled '\'' second)) := by
  simp [literal, enclosed]

section Joined

variable {between : Text} (present : between ≠ [])
  (opens : between.head? ≠ some '\'') (first : Text)
include present opens

/-- A quote before something else is not one of a pair. -/
theorem undoubled_joined (rest : Text) :
    undoubled '\'' (doubled '\'' first ++ '\'' :: (between ++ rest)) =
      first ++ '\'' :: undoubled '\'' (between ++ rest) := by
  have next : (between ++ rest).head? ≠ some '\'' := by
    obtain ⟨character, others, rfl⟩ := List.exists_cons_of_ne_nil present
    exact opens
  rw [undoubled_doubled_append, undoubled_cons_of_head?_ne next]

/-- Two literals with something else between them are read as one text. -/
theorem unquote?_joined (closes : between.getLast? ≠ some '\'')
    (second : Text) :
    unquote? (literal first ++ between ++ literal second) =
      some (first ++ '\'' :: undoubled '\'' between ++ '\'' :: second) := by
  refine unquote?_eq_some_iff.2
    ⟨_, literal_append_literal first between second, ?_⟩
  rw [undoubled_joined present opens, undoubled_append closes,
    undoubled_cons_doubled]
  simp

/-- Two literals with something else between them are no literal. -/
theorem joined_ne_literal (second other : Text) :
    literal first ++ between ++ literal second ≠ literal other := by
  rw [literal_append_literal, literal, Ne, enclosed_inj]
  intro same
  have value := congrArg (undoubled '\'') same
  rw [undoubled_joined present opens, undoubled_doubled] at value
  -- In the literal of this value the quote after the first text is doubled.
  rw [← value, doubled_append, List.append_cancel_left_eq, doubled_cons] at same
  obtain ⟨character, others, rfl⟩ := List.exists_cons_of_ne_nil present
  exact opens (congrArg (·[1]?) same)

end Joined

/-! ## What is read -/

/-- Whether a text is a word for no default. -/
def SaysNone (source : Text) : Prop :=
  sameLetters source "null".toList ∨ sameLetters source "(null)".toList

instance (source : Text) : Decidable (SaysNone source) :=
  inferInstanceAs (Decidable (_ ∨ _))

theorem isAbsent_iff {portable : PortableType} {source : Text} :
    isAbsent portable source ↔
      SaysNone source ∨ source = [] ∧ ¬ portable.isTextual := by
  simp [isAbsent, SaysNone]

theorem not_isAbsent {portable : PortableType} {source : Text}
    (noWord : ¬ SaysNone source) (textual : source = [] → portable.isTextual) :
    ¬ isAbsent portable source := by
  rw [isAbsent_iff]
  rintro (word | ⟨nothing, other⟩)
  · exact noWord word
  · exact other (textual nothing)

/-- A quoted text is no word for no default. -/
theorem not_saysNone_enclosed (inner : Text) : ¬ SaysNone (enclosed inner) := by
  have opening {word : Text} (same : sameLetters (enclosed inner) word) :
      ∃ first ∈ word.head?, '\'' = first.toLower := by
    have letters := congrArg List.head? ((sameLetters_iff _ _).1 same)
    rw [foldAscii, foldAscii, List.head?_map, List.head?_map] at letters
    obtain ⟨first, head, folds⟩ := Option.map_eq_some_iff.1 letters.symm
    exact ⟨first, head, folds.symm⟩
  rintro (same | same)
  · obtain ⟨first, ⟨⟩, folds⟩ := opening same
    exact absurd folds (by decide)
  · obtain ⟨first, ⟨⟩, folds⟩ := opening same
    exact absurd folds (by decide)

/-- What is read from a trimmed default of a type that holds texts. -/
inductive IsReadAs (portable : PortableType) (source : Text) :
    Option ColumnDefault → Prop where
  | noDefault (word : SaysNone source) : IsReadAs portable source none
  | noText (nothing : source = []) (other : ¬ portable.isTextual) :
      IsReadAs portable source none
  | empty (nothing : source = []) (textual : portable.isTextual) :
      IsReadAs portable source (some (.text []))
  | quoted {inner : Text} (whole : source = enclosed inner) :
      IsReadAs portable source (some (.text (undoubled '\'' inner)))
  | expression (noWord : ¬ SaysNone source) (present : source ≠ [])
      (unquoted : ∀ inner, source ≠ enclosed inner) :
      IsReadAs portable source (some (.expression source))

section Kinds

variable {portable : PortableType} {source : Text}

/--
A text is read from the empty source, from its literal, and from what stands
between quotes without being a literal.
-/
theorem isReadAs_text_iff {value : Text} :
    IsReadAs portable source (some (.text value)) ↔
      (source = [] ∧ portable.isTextual ∧ value = []) ∨
        source = literal value ∨
        (∀ other, source ≠ literal other) ∧
          ∃ inner, source = enclosed inner ∧ undoubled '\'' inner = value := by
  constructor
  · intro read
    cases read with
    | empty nothing textual => exact .inl ⟨nothing, textual, rfl⟩
    | @quoted inner whole =>
        right
        by_cases isLiteral : ∃ other, source = literal other
        · obtain ⟨other, rfl⟩ := isLiteral
          rw [literal, enclosed_inj] at whole
          rw [← whole, undoubled_doubled]
          exact .inl rfl
        · exact .inr ⟨fun other same => isLiteral ⟨other, same⟩, inner, whole,
            rfl⟩
  · rintro (⟨nothing, textual, rfl⟩ | whole | ⟨-, inner, whole, rfl⟩)
    · exact .empty nothing textual
    · have quoted : IsReadAs portable source
          (some (.text (undoubled '\'' (doubled '\'' value)))) :=
        .quoted whole
      rwa [undoubled_doubled] at quoted
    · exact .quoted whole

theorem isReadAs_expression_iff {expression : Text} :
    IsReadAs portable source (some (.expression expression)) ↔
      expression = source ∧ ¬ SaysNone source ∧ source ≠ [] ∧
        ∀ inner, source ≠ enclosed inner := by
  constructor
  · intro read
    cases read with
    | expression noWord present unquoted =>
        exact ⟨rfl, noWord, present, unquoted⟩
  · rintro ⟨rfl, noWord, present, unquoted⟩
    exact .expression noWord present unquoted

theorem isReadAs_none_iff :
    IsReadAs portable source none ↔
      SaysNone source ∨ source = [] ∧ ¬ portable.isTextual := by
  constructor
  · intro read
    cases read with
    | noDefault word => exact .inl word
    | noText nothing other => exact .inr ⟨nothing, other⟩
  · rintro (word | ⟨nothing, other⟩)
    · exact .noDefault word
    · exact .noText nothing other

/-- A default that is no text is the source as an expression. -/
theorem IsReadAs.text_or_expression {default : ColumnDefault}
    (read : IsReadAs portable source (some default)) :
    (∃ value, default = .text value) ∨ default = .expression source := by
  cases read with
  | empty => exact .inl ⟨_, rfl⟩
  | quoted => exact .inl ⟨_, rfl⟩
  | expression => exact .inr rfl

end Kinds

section Texts

variable {portable : PortableType} (texts : portable.HoldsTexts)
include texts

/-- A literal of a text is empty or between quotes. -/
theorem literal?_of_holdsTexts (source : Text) :
    literal? portable source =
      if source = [] then some (.text []) else (unquote? source).map .text := by
  obtain ⟨notInteger, notFloat, noOther⟩ := texts
  simp only [literal?, if_neg notInteger, if_neg notFloat]
  split
  · exact absurd noOther (by decide)
  · exact absurd noOther (by decide)
  · exact absurd noOther (by decide)
  · simp only [List.isEmpty_iff]

/-- A default that is not absent is empty, quoted or an expression. -/
theorem ofRaw_of_not_isAbsent {raw : Text}
    (present : ¬ isAbsent portable (trim raw)) :
    ofRaw portable raw =
      if trim raw = [] then some (.text [])
      else some (((unquote? (trim raw)).map .text).getD
        (.expression (trim raw))) := by
  rw [ofRaw, if_neg present, literal?_of_holdsTexts texts]
  split <;> rfl

theorem isReadAs_ofRaw (raw : Text) :
    IsReadAs portable (trim raw) (ofRaw portable raw) := by
  by_cases absent : isAbsent portable (trim raw)
  · rw [ofRaw, if_pos absent]
    rcases isAbsent_iff.1 absent with word | ⟨nothing, other⟩
    · exact .noDefault word
    · exact .noText nothing other
  · rw [ofRaw_of_not_isAbsent texts absent]
    obtain ⟨noWord, textual⟩ := not_or.1 (absent ∘ isAbsent_iff.2)
    split
    · next nothing => exact .empty nothing (by simpa [nothing] using textual)
    · next something =>
        cases found : unquote? (trim raw) with
        | none =>
            exact .expression noWord something (unquote?_eq_none_iff.1 found)
        | some value =>
            obtain ⟨inner, whole, rfl⟩ := unquote?_eq_some_iff.1 found
            exact .quoted whole

theorem IsReadAs.ofRaw_eq {raw : Text} {default : Option ColumnDefault}
    (read : IsReadAs portable (trim raw) default) :
    ofRaw portable raw = default := by
  cases read with
  | noDefault word => exact if_pos (isAbsent_iff.2 (.inl word))
  | noText nothing other =>
      exact if_pos (isAbsent_iff.2 (.inr ⟨nothing, other⟩))
  | empty nothing textual =>
      have noWord : ¬ SaysNone (trim raw) := by
        rw [nothing]
        decide
      rw [ofRaw_of_not_isAbsent texts
        (not_isAbsent noWord fun _ => textual), if_pos nothing]
  | @quoted inner whole =>
      have something : trim raw ≠ [] := by
        rw [whole]
        exact List.cons_ne_nil _ _
      have noWord : ¬ SaysNone (trim raw) := by
        rw [whole]
        exact not_saysNone_enclosed inner
      rw [ofRaw_of_not_isAbsent texts
        (not_isAbsent noWord (absurd · something)), if_neg something,
        unquote?_eq_some_iff.2 ⟨inner, whole, rfl⟩]
      rfl
  | expression noWord something unquoted =>
      rw [ofRaw_of_not_isAbsent texts
        (not_isAbsent noWord (absurd · something)), if_neg something,
        unquote?_eq_none_iff.2 unquoted]
      rfl

/-- What is read from a default depends on the trimmed text alone. -/
theorem ofRaw_eq_iff {raw : Text} {default : Option ColumnDefault} :
    ofRaw portable raw = default ↔ IsReadAs portable (trim raw) default := by
  constructor
  · rintro rfl
    exact isReadAs_ofRaw texts raw
  · exact IsReadAs.ofRaw_eq texts

/--
A default of a type that holds texts is read by its ends.  A text is given by
blanks, for a type that has the empty text, by the literal of the text, and
also by every other source between two quotes, with each pair of quotes
between them read as one: so is an expression that begins with a literal and
ends with another one.  The words for no default, and blanks for the other
types, give none, and any other source is given as an expression.
-/
theorem text_read_by_its_ends (raw : Text) :
    let source := trim raw
    (∀ value, ofRaw portable raw = some (.text value) ↔
      (source = [] ∧ portable.isTextual ∧ value = []) ∨
        source = literal value ∨
        (∀ other, source ≠ literal other) ∧
          ∃ inner, source = enclosed inner ∧ undoubled '\'' inner = value) ∧
    (∀ first between second, between ≠ [] → between.head? ≠ some '\'' →
      between.getLast? ≠ some '\'' →
      source = literal first ++ between ++ literal second →
        (∀ other, source ≠ literal other) ∧
          ofRaw portable raw =
            some (.text (first ++ '\'' :: undoubled '\'' between ++
              '\'' :: second))) ∧
    (∀ expression, ofRaw portable raw = some (.expression expression) ↔
      expression = source ∧ ¬ SaysNone source ∧ source ≠ [] ∧
        ∀ inner, source ≠ enclosed inner) ∧
    (ofRaw portable raw = none ↔
      SaysNone source ∨ source = [] ∧ ¬ portable.isTextual) ∧
    ∀ default, ofRaw portable raw = some default →
      (∃ value, default = .text value) ∨ default = .expression source := by
  intro source
  simp only [ofRaw_eq_iff texts]
  refine ⟨fun _ => isReadAs_text_iff, ?_, fun _ => isReadAs_expression_iff,
    isReadAs_none_iff, fun _ => IsReadAs.text_or_expression⟩
  intro first between second present opens closes whole
  have noLiteral (other : Text) : source ≠ literal other := by
    rw [whole]
    exact joined_ne_literal present opens first second other
  obtain ⟨inner, whole', value⟩ := unquote?_eq_some_iff.1
    (unquote?_joined present opens first closes second)
  exact ⟨noLiteral, isReadAs_text_iff.2
    (.inr (.inr ⟨noLiteral, inner, whole.trans whole', value⟩))⟩

end Texts

/-- A literal between blanks, and an expression of two literals. -/
theorem texts_of_literals :
    PortableType.string.HoldsTexts ∧
      trim "\t'it''s' ".toList = literal "it's".toList ∧
      ofRaw .string "\t'it''s' ".toList = some (.text "it's".toList) ∧
      trim "'a' || 'b'".toList =
        literal "a".toList ++ " || ".toList ++ literal "b".toList ∧
      ofRaw .string "'a' || 'b'".toList =
        some (.text "a' || 'b".toList) := by
  have texts : PortableType.string.HoldsTexts :=
    ⟨by decide, by decide, by decide⟩
  have whole : trim "\t'it''s' ".toList = literal "it's".toList := by decide
  have joined : trim "'a' || 'b'".toList =
      literal "a".toList ++ " || ".toList ++ literal "b".toList := by
    decide
  refine ⟨texts, whole, ?_, joined, ?_⟩
  · exact ((text_read_by_its_ends texts _).1 _).2 (.inr (.inl whole))
  · exact ((text_read_by_its_ends texts _).2.1 _ _ _ (by decide) (by decide)
      (by decide) joined).2

/--
Not only literals are given as texts: an expression that joins two literals
is given as a text with the operator in it.
-/
theorem not_only_literals :
    (¬ ∀ (portable : PortableType) (raw value : Text), portable.HoldsTexts →
      ofRaw portable raw = some (.text value) →
        IsBlankText raw ∧ value = [] ∨ trim raw = literal value) ∧
    ¬ ∀ (portable : PortableType) (raw : Text), portable.HoldsTexts →
      ¬ IsBlankText raw → (∀ value, trim raw ≠ literal value) →
        ¬ SaysNone (trim raw) →
          ofRaw portable raw = some (.expression (trim raw)) := by
  have texts : PortableType.string.HoldsTexts :=
    ⟨by decide, by decide, by decide⟩
  have joined : trim "'a' || 'b'".toList =
      literal "a".toList ++ " || ".toList ++ literal "b".toList := by
    decide
  have noLiteral (value : Text) :
      trim "'a' || 'b'".toList ≠ literal value := by
    rw [joined]
    exact joined_ne_literal (by decide) (by decide) _ _ value
  have given : ofRaw .string "'a' || 'b'".toList =
      some (.text "a' || 'b".toList) := by
    rfl
  constructor
  · intro only
    rcases only .string _ _ texts given with ⟨blank, -⟩ | isLiteral
    · exact absurd blank (by decide)
    · exact noLiteral _ isLiteral
  · intro other
    have expression := other .string "'a' || 'b'".toList texts (by decide)
      noLiteral (by decide)
    rw [given] at expression
    cases expression

end ColumnDefault

end SqlAnywhere
