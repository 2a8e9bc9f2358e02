import SqlAnywhere.Proofs.TypeName
import SqlAnywhere.Proofs.TypeWidth

/-!
# Types by their names

The portable type of a type text is looked up by its name: by all of it, else
by its first word.  What is looked up is not the text before the parenthesis
but the longest name at its start, so that a text which goes on with another
character has the type of what stands before it.  Where the whole text is a
name, with at most one mark for unsigned, its type is that of the text,
unless the width of a bit field or of a tiny integer gives one.
-/

namespace SqlAnywhere

open Text ReportedType

/-! ## Plain words -/

theorem plainWords_eq (text : Text) :
    plainWords text = dropUnsigned ((words text).map lower) := by
  rw [plainWords, words_lower]

theorem dropUnsigned_subset (words : List Text) : dropUnsigned words ⊆ words := by
  cases words with
  | nil => exact List.Subset.refl _
  | cons word words =>
      rw [dropUnsigned]
      split
      · exact List.subset_cons_self _ _
      · exact List.Subset.refl _

/-- Of words in lower case a mark for unsigned alone is dropped. -/
theorem plainWords_intercalate {parts : List Text}
    (each : ∀ part ∈ parts, IsWord part)
    (lowered : ∀ part ∈ parts, lower part = part) :
    plainWords ([' '].intercalate parts) = dropUnsigned parts := by
  rw [plainWords_eq, words_intercalate each, List.map_congr_left lowered,
    List.map_id']

namespace PortableType

/-- Types of names with the same plain words are the same. -/
theorem ofTypeName_congr {text text' : Text}
    (same : plainWords text = plainWords text') :
    ofTypeName text = ofTypeName text' := by
  rw [ofTypeName, ofTypeName, same]

/--
Names that the server does not have, and whose first word is no name that it
has.
-/
structure IsUnknown (text : Text) : Prop where
  whole : ofPlainName? (plainName text) = none
  first : ∀ word ∈ (plainWords text).head?, ofPlainName? word = none

/-- A type of an unknown name is a string. -/
theorem IsUnknown.ofTypeName {text : Text} (unknown : IsUnknown text) :
    ofTypeName text = .string := by
  have first : (plainWords text).head?.bind ofPlainName? = none :=
    Option.bind_eq_none_iff.2 unknown.first
  have whole := unknown.whole
  rw [plainName] at whole
  simp only [PortableType.ofTypeName, whole, first]
  rfl

end PortableType

namespace ReportedType

/--
Words that begin with no mark for unsigned, or with one that is so in lower
case and not with two.
-/
def IsMarkedOnce : List Text → Prop
  | mark :: next :: _ =>
      Spells mark unsignedWord →
        lower mark = unsignedWord ∧ lower next ≠ unsignedWord
  | _ => True

instance (words : List Text) : Decidable (IsMarkedOnce words) :=
  match words with
  | [] => inferInstanceAs (Decidable True)
  | [_] => inferInstanceAs (Decidable True)
  | _ :: _ :: _ => inferInstanceAs (Decidable (_ → _))

/-- Of words that are marked once the mark alone is dropped. -/
theorem IsMarkedOnce.dropped {words : List Text} (once : IsMarkedOnce words) :
    namedBy words = dropUnsigned (words.map lower) ∧
      dropUnsigned (namedBy words) = namedBy words := by
  cases words with
  | nil => exact ⟨rfl, rfl⟩
  | cons mark words =>
      cases words with
      | nil =>
          refine ⟨rfl, ?_⟩
          by_cases same : lower mark = unsignedWord
          · simp [namedBy, dropUnsignedMark, dropUnsigned, same]
          · simp [namedBy, dropUnsignedMark, dropUnsigned, same]
      | cons next words =>
          have present : next :: words ≠ [] := List.cons_ne_nil _ _
          by_cases spelled : Spells mark unsignedWord
          · obtain ⟨same, other⟩ := once spelled
            rw [namedBy_of_marked spelled present]
            simp [dropUnsigned, same, other]
          · have other : lower mark ≠ unsignedWord :=
              spelled ∘ spells_of_lower_eq
            rw [namedBy_of_unmarked (by rintro _ ⟨⟩; exact spelled)]
            simp [dropUnsigned, other]

/-! ## The name of a type text -/

/-- The words of a name are among those that were read, in lower case. -/
theorem namedBy_subset (words : List Text) :
    namedBy words ⊆ words.map lower := by
  refine List.Subset.trans (dropUnsigned_subset _) (List.map_subset lower ?_)
  cases words with
  | nil => exact List.Subset.refl _
  | cons mark words =>
      cases words with
      | nil => exact List.Subset.refl _
      | cons next words =>
          rw [dropUnsignedMark_cons (List.cons_ne_nil _ _)]
          split
          · exact List.subset_cons_self _ _
          · exact List.Subset.refl _

section Named

variable {words : List Text} (each : ∀ word ∈ words, IsWord word)

include each

/-- The words of a name are words, and in lower case. -/
theorem isWord_and_lower_of_mem_namedBy {word : Text}
    (member : word ∈ namedBy words) : IsWord word ∧ lower word = word := by
  obtain ⟨original, listed, rfl⟩ :=
    List.mem_map.1 (namedBy_subset _ member)
  exact ⟨(each original listed).lower, lower_lower original⟩

/-- The first word of a name. -/
theorem takeWhile_namedBy :
    ([' '].intercalate (namedBy words)).takeWhile (· ≠ ' ') =
      (namedBy words).head?.getD [] :=
  takeWhile_intercalate fun _ member =>
    (isWord_and_lower_of_mem_namedBy each member).1

/-- Of the words of a name a mark for unsigned alone is dropped. -/
theorem plainWords_namedBy :
    plainWords ([' '].intercalate (namedBy words)) =
      dropUnsigned (namedBy words) :=
  plainWords_intercalate
    (fun _ member => (isWord_and_lower_of_mem_namedBy each member).1)
    fun _ member => (isWord_and_lower_of_mem_namedBy each member).2

end Named

/-- A name whose text is marked once has the plain words of the text. -/
theorem plainWords_name {text : Text} (once : IsMarkedOnce (words text)) :
    plainWords ([' '].intercalate (namedBy (words text))) = plainWords text := by
  rw [plainWords_namedBy fun _ => isWord_of_mem_words, once.dropped.2,
    plainWords_eq, once.dropped.1]

/-! ## Types that are looked up -/

/-- A first word that no name of the server begins with has no widths. -/
theorem portable_of_isUnknown {text : Text} {size : Option Int64}
    {portable : PortableType}
    (typed : TypedAs ((plainWords text).head?.getD []) (.ofTypeName text) size
      portable)
    (unknown : PortableType.IsUnknown text) : portable = .string := by
  cases typed with
  | byWidth given =>
      cases first : (plainWords text).head? with
      | none =>
          rw [first] at given
          exact absurd given.narrow (by decide)
      | some word =>
          have absent := unknown.first word first
          rw [first, Option.getD_some] at given
          rcases given.narrow with rfl | rfl
          · exact absurd absent (by decide)
          · exact absurd absent (by decide)
  | byName => exact unknown.ofTypeName

/--
The portable type of a text by the longest name at the start of what stands
before its parenthesis, which is all of it where it holds words of type names
alone.  The name that is looked up is the words that were read without marks
for unsigned; it is the text that was read where this is marked once at most,
and an unknown one is a string.  A size is read only where the name reaches
the parenthesis.
-/
theorem portable_of_longest_name (text : Text) :
    let part := text.takeWhile (· ≠ '(')
    let reported := ofText text
    ∃ read unread,
      IsLongestName part read unread ∧
      (Readable part → read = part ∧ unread = []) ∧
      (unread ≠ [] → reported.size = none) ∧
      (let named := namedBy (words read)
       TypedAs (named.head?.getD []) (.ofTypeName ([' '].intercalate named))
        reported.size reported.portable) ∧
      (IsMarkedOnce (words read) →
        TypedAs ((plainWords read).head?.getD []) (.ofTypeName read)
          reported.size reported.portable ∧
        (PortableType.IsUnknown read → reported.portable = .string)) := by
  intro part reported
  obtain ⟨read, unread, longest⟩ := exists_isLongestName part
  have unopened : '(' ∉ part := fun member => by
    simpa using List.mem_takeWhile_imp member
  have opens : ∀ next ∈ (text.dropWhile (· ≠ '(')).head?, next = '(' := by
    intro next member
    have stopped := List.head?_dropWhile_not (· ≠ '(') text
    rw [Option.mem_def.1 member] at stopped
    simpa using stopped
  have whole : part ++ text.dropWhile (· ≠ '(') = text :=
    List.takeWhile_append_dropWhile
  have described := ofText_of_isLongestName longest unopened opens
  rw [whole] at described
  have name : reported.name = [' '].intercalate (namedBy (words read)) :=
    congrArg ReportedType.name described
  have first : reported.leading = (namedBy (words read)).head?.getD [] := by
    rw [leading, name, takeWhile_namedBy fun _ => isWord_of_mem_words]
  have typed := reported.portable_typedAs
  rw [first, name] at typed
  refine ⟨read, unread, longest, fun readable => ?_, ?_, typed, fun once => ?_⟩
  · exact longest.unique (isLongestName_self readable)
  · intro cut
    have size : reported.size = _ := congrArg ReportedType.size described
    rwa [if_neg cut, ofWords, ite_self] at size
  · have typed' : TypedAs ((plainWords read).head?.getD []) (.ofTypeName read)
        reported.size reported.portable := by
      rwa [PortableType.ofTypeName_congr (plainWords_name once),
        once.dropped.1, ← plainWords_eq] at typed
    exact ⟨typed', portable_of_isUnknown typed'⟩

/--
A marked name of two words that reaches the parenthesis, with a width that
gives its type.
-/
theorem bits_by_width :
    let text := "Unsigned\tBit Field (33) x".toList
    let part := "Unsigned\tBit Field ".toList
    Readable part ∧ IsMarkedOnce (words part) ∧
      PortableType.ofTypeName part = .smallInt ∧
      (ofText text).portable = .bigInt := by
  have readable : Readable "Unsigned\tBit Field ".toList := by decide +kernel
  have once : IsMarkedOnce (words "Unsigned\tBit Field ".toList) := by
    decide +kernel
  obtain ⟨read, unread, -, whole, -, -, marked⟩ :=
    portable_of_longest_name "Unsigned\tBit Field (33) x".toList
  obtain ⟨rfl, -⟩ := whole readable
  have typed := (marked once).1
  have given : GivenByWidth "bit".toList 33 .bigInt :=
    .bigInt rfl (by decide)
  exact ⟨readable, once, by decide +kernel, typed.unique (.byWidth given)⟩

/--
A name that goes on with another character, and one marked twice, have the
type of what was read, although neither they nor their first words are names
that the server has.
-/
theorem time_by_start_of_name :
    let longer := "time$slots".toList
    let twice := "unsigned unsigned int".toList
    (PortableType.IsUnknown longer ∧
      PortableType.ofTypeName longer = .string ∧
      (ofText longer).name = "time".toList ∧
      (ofText longer).portable = .time) ∧
    (PortableType.IsUnknown twice ∧
      PortableType.ofTypeName twice = .string ∧
      (ofText twice).portable = .integer) := by
  refine ⟨⟨⟨by decide, by decide⟩, by decide, by decide, by decide⟩,
    ⟨by decide, by decide⟩, by decide, by decide⟩

end ReportedType

end SqlAnywhere
