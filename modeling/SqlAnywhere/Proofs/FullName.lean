import SqlAnywhere.Proofs.QuotedReference
import SqlAnywhere.Proofs.Trimming

/-!
# Full names as references

The full name of a table is its bare name, after its owner where that is not
the default one.  It is a reference itself: what is read from a reference holds
neither dots nor brackets and has no blanks at its ends, so that it is read
again as it is, and a full name leads back to the table.  An owner that differs
from the default one in case alone is left out, and then the default one takes
its place.
-/

namespace SqlAnywhere

namespace TableName

open Identifier

/-! ## What is read from references -/

/-- A text as it is read from a reference, which can be empty. -/
structure IsRead (text : Text) : Prop where
  unquoted : unquote text = text
  dotless : '.' ∉ text
  trimmed : Text.trim text = text

/-- Whether a reference names an owner: before its last part, and not blank. -/
def NamesOwner (reference owner : Text) : Prop :=
  owner ≠ [] ∧ ∃ earlier part last,
    (unquote reference).splitOn '.' = earlier ++ [part, last] ∧
      Text.trim part = owner

section Read

variable {reference owner name : Text}

theorem not_isBracket_of_mem_unquote {character : Char}
    (member : character ∈ unquote reference) : ¬ isBracket character := by
  simpa using (List.mem_filter.1 member).2

theorem IsRead.not_isBracket {text : Text} (read : IsRead text)
    {character : Char} (member : character ∈ text) : ¬ isBracket character := by
  rw [← read.unquoted] at member
  exact not_isBracket_of_mem_unquote member

/--
A part between the dots of a reference is read without its brackets and the
blanks around it.
-/
theorem isRead_trim_part {part : Text}
    (member : part ∈ ((unquote reference).splitOn '.').reverse) :
    IsRead (Text.trim part) where
  unquoted := by
    rw [unquote, List.filter_eq_self]
    intro character inside
    have listed := List.mem_reverse.1 member
    have whole := (Text.part_of_mem_splitOn listed).1 (Text.mem_of_mem_trim inside)
    simpa using not_isBracket_of_mem_unquote whole
  dotless := dot_notMem_trim_part reference member
  trimmed := Text.trim_trim part

theorem isRead_nil : IsRead [] :=
  ⟨rfl, List.not_mem_nil, rfl⟩

/-- The bare name in a reference. -/
theorem isRead_name (reference : Text) : IsRead (split reference).2 := by
  rw [split]
  split
  · exact isRead_nil
  · next name parts => exact isRead_trim_part (by rw [parts]; simp)
  · next name owner others parts =>
      exact isRead_trim_part (by rw [parts]; simp)

/-- The owner that is read from a reference is the one that it names. -/
theorem namesOwner_iff :
    NamesOwner reference owner ↔ (split reference).1 = some owner := by
  constructor
  · rintro ⟨filled, earlier, part, last, parts, rfl⟩
    rw [split, parts, List.reverse_append]
    simp [ownerOfPart?, filled]
  · intro given
    rw [split] at given
    split at given
    · cases given
    · cases given
    · next last part others parts =>
        rw [List.reverse_eq_iff, List.reverse_cons, List.reverse_cons,
          List.append_assoc] at parts
        rw [ownerOfPart?] at given
        split at given
        · cases given
        · next filled =>
            obtain rfl := Option.some.inj given
            exact ⟨by simpa using filled, _, part, last, parts, rfl⟩

theorem isRead_owner (given : (split reference).1 = some owner) :
    IsRead owner := by
  obtain ⟨-, earlier, part, last, parts, rfl⟩ := namesOwner_iff.2 given
  exact isRead_trim_part (List.mem_reverse.2 (by rw [parts]; simp))

/-- A bare name that was read is read again. -/
theorem split_of_isRead (read : IsRead name) : split name = (none, name) := by
  rw [split, read.unquoted, List.splitOn_eq_singleton read.dotless]
  simp [read.trimmed]

/--
An owner and a bare name that were read are read again with a dot between
them.
-/
theorem split_append_dot_of_isRead (readOwner : IsRead owner)
    (filled : owner ≠ []) (read : IsRead name) :
    split (owner ++ '.' :: name) = (some owner, name) := by
  rw [split, unquote_append, unquote_cons_dot, readOwner.unquoted,
    read.unquoted, List.splitOn_append_cons_self_of_not_mem readOwner.dotless,
    List.splitOn_eq_singleton read.dotless]
  simp [ownerOfPart?, readOwner.trimmed, filled, read.trimmed]

end Read

/-! ## Full names -/

section FullName

variable (reference defaultOwner : Text)

/-- The owner in a reference, if it is not the default one. -/
def otherOwner? : Option Text :=
  (split reference).1.filter fun owner => !Text.sameLetters owner defaultOwner

variable {reference defaultOwner} in
theorem otherOwner?_eq_some_iff {owner : Text} :
    otherOwner? reference defaultOwner = some owner ↔
      NamesOwner reference owner ∧ ¬ Text.sameLetters owner defaultOwner := by
  rw [otherOwner?, Option.filter_eq_some_iff, namesOwner_iff, Bool.not_eq_true',
    Bool.not_eq_true]

section Given

variable {reference defaultOwner} {owner : Text}
  (given : (split reference).1 = some owner)

include given

theorem otherOwner?_of_sameLetters
    (same : Text.sameLetters owner defaultOwner) :
    otherOwner? reference defaultOwner = none := by
  rw [otherOwner?, given, Option.filter_some, same]
  rfl

theorem otherOwner?_of_not_sameLetters
    (other : ¬ Text.sameLetters owner defaultOwner) :
    otherOwner? reference defaultOwner = some owner :=
  otherOwner?_eq_some_iff.2 ⟨namesOwner_iff.2 given, other⟩

end Given

theorem fullName_resolve :
    (resolve reference defaultOwner).fullName =
      match otherOwner? reference defaultOwner with
      | none => (split reference).2
      | some owner => owner ++ '.' :: (split reference).2 := by
  rw [resolve]
  split
  · next name parts =>
      rw [otherOwner?, parts]
      rfl
  · next owner name parts =>
      have given : (split reference).1 = some owner := by rw [parts]
      split
      · next same => rw [otherOwner?_of_sameLetters given same, parts]
      · next other => rw [otherOwner?_of_not_sameLetters given other, parts]

/--
A full name is read as the bare name, and as the owner if that is not the
default one.
-/
theorem split_fullName :
    split (resolve reference defaultOwner).fullName =
      (otherOwner? reference defaultOwner, (split reference).2) := by
  rw [fullName_resolve]
  cases other : otherOwner? reference defaultOwner with
  | none => exact split_of_isRead (isRead_name reference)
  | some owner =>
      obtain ⟨named, -⟩ := otherOwner?_eq_some_iff.1 other
      exact split_append_dot_of_isRead (isRead_owner (namesOwner_iff.1 named))
        named.1 (isRead_name reference)

theorem otherOwner?_fullName :
    otherOwner? (resolve reference defaultOwner).fullName defaultOwner =
      otherOwner? reference defaultOwner := by
  rw [otherOwner?, split_fullName, otherOwner?, Option.filter_filter]
  simp

/--
The owner that a full name leads to is that of the reference, or the default
one in its case.
-/
theorem sameLetters_owner_fullName :
    Text.sameLetters
      (resolve (resolve reference defaultOwner).fullName defaultOwner).owner
      (resolve reference defaultOwner).owner := by
  rw [resolve_owner, resolve_owner, split_fullName]
  cases given : (split reference).1 with
  | none =>
      rw [otherOwner?, given]
      exact Text.sameLetters_refl defaultOwner
  | some owner =>
      by_cases same : Text.sameLetters owner defaultOwner
      · rw [otherOwner?_of_sameLetters given same, Text.sameLetters_comm]
        exact same
      · rw [otherOwner?_of_not_sameLetters given same]
        exact Text.sameLetters_refl owner

/--
The full name of a table as a reference, for every reference and every
default owner.  It resolves to the same table with the same full name; the
bare name holds neither dots nor brackets and has no blanks at its ends; and
it names exactly the owner that the reference names, unless that is the
default one.
-/
theorem full_name_read_again :
    let table := resolve reference defaultOwner
    let again := resolve table.fullName defaultOwner
    (sameTable again table ∧
      again.fullName = table.fullName ∧ again.name = table.name) ∧
    ('.' ∉ table.name ∧ '[' ∉ table.name ∧ ']' ∉ table.name ∧
      (∀ first ∈ table.name.head?, ¬ isBlank first) ∧
      ∀ last ∈ table.name.getLast?, ¬ isBlank last) ∧
    ∀ owner,
      NamesOwner table.fullName owner ↔
        NamesOwner reference owner ∧
          ¬ Text.sameLetters owner defaultOwner := by
  intro table again
  have read : IsRead table.name := by
    rw [resolve_name]
    exact isRead_name reference
  have parts : split table.fullName =
      (otherOwner? reference defaultOwner, (split reference).2) :=
    split_fullName reference defaultOwner
  have names : again.name = table.name := by
    rw [resolve_name, resolve_name, parts]
  have fullNames : again.fullName = table.fullName := by
    rw [fullName_resolve table.fullName, otherOwner?_fullName, parts]
    exact (fullName_resolve reference defaultOwner).symm
  have noOpening : '[' ∉ table.name := fun opening =>
    read.not_isBracket opening rfl
  have noClosing : ']' ∉ table.name := fun closing =>
    read.not_isBracket closing rfl
  refine ⟨⟨?_, fullNames, names⟩, ⟨read.dotless, noOpening, noClosing,
    Text.not_isBlank_of_trim_eq_self read.trimmed⟩, ?_⟩
  · rw [sameTable, names, Text.sameLetters_refl, Bool.and_true]
    exact sameLetters_owner_fullName reference defaultOwner
  · intro owner
    rw [namesOwner_iff, parts, otherOwner?_eq_some_iff]

end FullName

end TableName

end SqlAnywhere
