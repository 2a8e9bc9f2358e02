import SqlAnywhere.Proofs.UpperCase
import SqlAnywhere.Session.Basic

/-!
# Which references share a key

A reference resolves to an owner and a bare name, and the bare name holds no
dot.  The key of a table therefore tells its two parts in upper case, and the
key of a name without an owner never is that of a qualified one.

References that compare equal have one key.  The converse fails outside ASCII,
where keys are made with the full upper-case mapping and references are still
compared by ASCII case.
-/

namespace SqlAnywhere

namespace Text

/-- Trimming adds no character. -/
theorem mem_of_mem_trim
    {character : Char} {text : Text}
    (member : character ∈ trim text) :
    character ∈ text := by
  rw [trim, trimEnd, List.mem_reverse] at member
  have kept := (List.dropWhile_sublist isBlank).mem member
  exact (List.dropWhile_sublist isBlank).mem (List.mem_reverse.1 kept)

end Text

namespace TableName

/-- A reference that names no owner. -/
def IsBare (reference : Text) : Prop :=
  (split reference).1 = none

instance (reference : Text) : Decidable (IsBare reference) :=
  inferInstanceAs (Decidable ((split reference).1 = none))

/-- A part between the dots of a reference holds no dot. -/
theorem dot_notMem_trim_part (reference : Text) {part : Text}
    (member :
      part ∈ ((Identifier.unquote reference).splitOn '.').reverse) :
    '.' ∉ Text.trim part :=
  fun dot => (Text.part_of_mem_splitOn (List.mem_reverse.1 member)).2
    (Text.mem_of_mem_trim dot)

/-- The bare name in a reference holds no dot. -/
theorem dot_notMem_split (reference : Text) : '.' ∉ (split reference).2 := by
  rw [split]
  split
  · exact List.not_mem_nil
  · next name parts => exact dot_notMem_trim_part reference (by simp [parts])
  · next name owner others parts =>
      exact dot_notMem_trim_part reference (by simp [parts])

/-- The owner in a reference holds no dot. -/
theorem dot_notMem_owner {reference owner : Text}
    (given : (split reference).1 = some owner) : '.' ∉ owner := by
  rw [split] at given
  split at given
  · cases given
  · cases given
  · next name part others parts =>
      rw [ownerOfPart?] at given
      split at given
      · cases given
      · rw [← Option.some.inj given]
        exact dot_notMem_trim_part reference (by simp [parts])

/-- Resolving keeps the bare name. -/
@[simp]
theorem resolve_name (reference defaultOwner : Text) :
    (resolve reference defaultOwner).name = (split reference).2 := by
  rw [resolve]
  split
  · next parts => rw [parts]
  · next parts =>
      rw [parts]
      split <;> rfl

/-- Resolving keeps the owner, if there is one. -/
theorem resolve_owner (reference defaultOwner : Text) :
    (resolve reference defaultOwner).owner =
      (split reference).1.getD defaultOwner := by
  rw [resolve]
  split
  · next parts =>
      rw [parts]
      rfl
  · next parts =>
      rw [parts]
      split <;> rfl

/-- A reference without an owner resolves to the default owner. -/
theorem resolve_of_isBare
    {reference : Text} (defaultOwner : Text)
    (bare : IsBare reference) :
    resolve reference defaultOwner =
      ⟨defaultOwner, (split reference).2, (split reference).2⟩ := by
  rw [resolve]
  split
  · next parts => rw [parts]
  · next parts => simp [IsBare, parts] at bare

/-- Keys are equal where owner and bare name are equal in upper case. -/
theorem key_eq_iff (first second defaultOwner : Text) :
    (resolve first defaultOwner).key = (resolve second defaultOwner).key ↔
      Text.upper (resolve first defaultOwner).owner =
          Text.upper (resolve second defaultOwner).owner ∧
        Text.upper (split first).2 = Text.upper (split second).2 := by
  rw [key, key, Text.upper_append_dot, Text.upper_append_dot,
    Text.append_mark_inj]
  · rw [resolve_name, resolve_name]
  · simpa using dot_notMem_split first
  · simpa using dot_notMem_split second

/-- References that compare equal have one upper-case owner and bare name. -/
theorem upper_eq_of_sameReference
    {first second defaultOwner : Text}
    (same : sameReference first second defaultOwner) :
    Text.upper (resolve first defaultOwner).owner =
        Text.upper (resolve second defaultOwner).owner ∧
      Text.upper (split first).2 = Text.upper (split second).2 := by
  rw [sameReference, sameTable, Bool.and_eq_true] at same
  rw [resolve_name, resolve_name] at same
  exact ⟨Text.upper_eq_of_sameLetters same.1,
    Text.upper_eq_of_sameLetters same.2⟩

/-- References that compare equal have one key. -/
theorem key_eq_of_sameReference
    {first second defaultOwner : Text}
    (same : sameReference first second defaultOwner) :
    (resolve first defaultOwner).key = (resolve second defaultOwner).key :=
  (key_eq_iff first second defaultOwner).2 (upper_eq_of_sameReference same)

/-- The key of a table has a dot in it. -/
theorem dot_mem_key (table : TableName) : '.' ∈ table.key := by
  simp [key]

end TableName

namespace Session

open TableName

variable {Cache : Type}

/-- A name without an owner has the key of its bare name. -/
theorem key_of_isBare
    (session : Session Cache) {reference : Text}
    (bare : IsBare reference) :
    session.key reference = bareKey (split reference).2 := by
  rw [key]
  split
  · next parts => rw [parts]
  · next parts => simp [IsBare, parts] at bare

/-- A qualified name has the key of its table. -/
theorem key_of_not_isBare
    (session : Session Cache) {reference : Text}
    (qualified : ¬ IsBare reference) :
    session.key reference =
      (resolve reference session.defaultOwner).key := by
  rw [key]
  split
  · next parts => exact absurd (by rw [IsBare, parts]) qualified
  · rfl

/-- The key of a bare name in a reference has no dot in it. -/
theorem dot_notMem_bareKey (reference : Text) :
    '.' ∉ bareKey (split reference).2 := by
  simpa [bareKey] using dot_notMem_split reference

/-- No name without an owner has the key of a table. -/
theorem bareKey_ne_key (reference : Text) (table : TableName) :
    bareKey (split reference).2 ≠ table.key := by
  intro equal
  exact dot_notMem_bareKey reference (equal ▸ dot_mem_key table)

/--
References share a key in a session if both or neither name an owner, and the
two parts agree in upper case.
-/
theorem key_eq_iff (session : Session Cache) (first second : Text) :
    session.key first = session.key second ↔
      (IsBare first ↔ IsBare second) ∧
        Text.upper (resolve first session.defaultOwner).owner =
          Text.upper (resolve second session.defaultOwner).owner ∧
        Text.upper (split first).2 = Text.upper (split second).2 := by
  by_cases bare : IsBare first <;> by_cases bare' : IsBare second
  · rw [key_of_isBare session bare, key_of_isBare session bare',
      resolve_of_isBare _ bare, resolve_of_isBare _ bare']
    simp [bare, bare', bareKey]
  · rw [key_of_isBare session bare, key_of_not_isBare session bare']
    simp [bare, bare', bareKey_ne_key]
  · rw [key_of_not_isBare session bare, key_of_isBare session bare']
    simp [bare, bare', (bareKey_ne_key _ _).symm]
  · rw [key_of_not_isBare session bare, key_of_not_isBare session bare',
      TableName.key_eq_iff]
    simp [bare, bare']

end Session

end SqlAnywhere
