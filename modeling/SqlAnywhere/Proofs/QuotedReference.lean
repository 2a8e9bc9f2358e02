import SqlAnywhere.Proofs.Bracketed
import SqlAnywhere.Proofs.SessionTables

/-!
# Quoted names as references

A reference is read without its brackets, and by its last two parts.  Quoting a
name adds brackets alone, so that a quoted name is read as the name itself, and
brackets do not keep the dots between them from taking it apart.  A name
without dots is read back, and everything that a session does with a reference
is about the owner and the name that it is read as.
-/

namespace SqlAnywhere

variable {Cache : Type} [TableCache Cache]

/-! ## Brackets in a reference -/

namespace Identifier

@[simp]
theorem unquote_append (text rest : Text) :
    unquote (text ++ rest) = unquote text ++ unquote rest :=
  List.filter_append text rest

@[simp]
theorem unquote_cons_dot (rest : Text) :
    unquote ('.' :: rest) = '.' :: unquote rest := rfl

/-- Quoting adds no more than brackets. -/
@[simp]
theorem unquote_quote (name : Text) : unquote (quote name) = unquote name := by
  rw [quote]
  split
  · rfl
  · simp [unquote, isBracket]

/--
A name that can be told from a reference: one that is not empty, and that
neither begins nor ends with a blank nor holds a bracket.
-/
structure IsPlain (name : Text) : Prop where
  filled : name ≠ []
  trimmed : Text.trim name = name
  unopened : '[' ∉ name
  unclosed : ']' ∉ name

theorem IsPlain.unquote_eq {name : Text} (plain : IsPlain name) :
    unquote name = name := by
  rw [unquote, List.filter_eq_self]
  intro character member
  have unopened : character ≠ '[' := fun same => plain.unopened (same ▸ member)
  have unclosed : character ≠ ']' := fun same => plain.unclosed (same ▸ member)
  simp [isBracket, unopened, unclosed]

end Identifier

namespace TableName

open Identifier

/-- References that are equal without their brackets are read alike. -/
theorem split_congr {first second : Text}
    (same : unquote first = unquote second) :
    split first = split second := by
  rw [split, split, same]

/-- A quoted name is read as the name. -/
theorem split_quote (name : Text) : split (quote name) = split name :=
  split_congr (unquote_quote name)

/--
A quoted owner and a quoted name are read as the two without their brackets.
-/
theorem split_quote_append_dot (owner name : Text) :
    split (quote owner ++ '.' :: quote name) =
      split (owner ++ '.' :: name) :=
  split_congr (by simp)

section Plain

variable {owner name : Text} (plainName : IsPlain name)

include plainName

/-- A name without dots is read as a bare name, and no other one is. -/
theorem split_eq_none_iff : split name = (none, name) ↔ '.' ∉ name := by
  constructor
  · intro read
    have dotless := dot_notMem_split name
    rwa [read] at dotless
  · intro dotless
    rw [split, plainName.unquote_eq, List.splitOn_eq_singleton dotless]
    simp [plainName.trimmed]

/--
An owner and a name without dots are read with a dot between them, and no
others are.
-/
theorem split_eq_some_iff (plainOwner : IsPlain owner) :
    split (owner ++ '.' :: name) = (some owner, name) ↔
      '.' ∉ owner ∧ '.' ∉ name := by
  constructor
  · intro read
    have dotless := dot_notMem_split (owner ++ '.' :: name)
    rw [read] at dotless
    exact ⟨dot_notMem_owner (congrArg Prod.fst read), dotless⟩
  · rintro ⟨dotless, dotless'⟩
    have unquoted : unquote (owner ++ '.' :: name) = owner ++ '.' :: name := by
      rw [unquote_append, unquote_cons_dot, plainOwner.unquote_eq,
        plainName.unquote_eq]
    rw [split, unquoted, List.splitOn_append_cons_self_of_not_mem dotless,
      List.splitOn_eq_singleton dotless']
    simp [ownerOfPart?, plainOwner.trimmed, plainOwner.filled,
      plainName.trimmed]

end Plain

end TableName

/-! ## What a session does with a reference -/

namespace Session

open TableName Identifier

/--
The questions about a table with which it is loaded: for the number of its
owners where the reference names none, and for its key, its columns and its
foreign keys.
-/
def questions (reference owner name : Text) (family : ServerFamily) :
    List Call :=
  (if IsBare reference then [.ownerCount name] else []) ++
    [.aboutTable (.primaryKeys family) owner name,
      .aboutTable (.columns family) owner name,
      .aboutTable (.foreignKeys family) owner name]

/--
A reference that a session takes for a table of an owner, in all that it
asks, compares and gives.
-/
structure Addresses (session : Session Cache) (reference owner name : Text) :
    Prop where
  compared (other : Text) :
    sameReference reference other session.defaultOwner ↔
      Text.sameLetters owner (resolve other session.defaultOwner).owner ∧
        Text.sameLetters name (resolve other session.defaultOwner).name
  asked (server : Server) (memory : Memory Cache) (past : List Call) :
    ∃ family,
      ((session.table reference).outcome server memory past).calls <+:
        familyCalls memory ++ questions reference owner name family
  /--
  A table that is not remembered is loaded with this owner and this name.
  -/
  loaded {server : Server} {memory : Memory Cache} {past : List Call}
    {table : Table}
    (unknown : memory.find? (session.key reference) = none)
    (found :
      ((session.table reference).outcome server memory past).result =
        .ok (some table)) :
    table.name.owner = owner ∧ table.name.name = name
  /--
  At every stage, what is given has this owner and this name up to the case
  of letters.
  -/
  given {server : Server} {operations : List Operation} {table : Table}
    (known :
      let stage := Stage.after server session operations
      ((session.table reference).outcome
        server stage.memory stage.past).result = .ok (some table)) :
    Text.upper table.name.owner = Text.upper owner ∧
      Text.upper table.name.name = Text.upper name

variable {session : Session Cache} {reference name : Text}

/--
A load asks about the table that the reference resolves to, and about no
other.
-/
theorem calls_table_isPrefix (session : Session Cache) (reference : Text)
    (server : Server) (memory : Memory Cache) (past : List Call) :
    ∃ family,
      ((session.table reference).outcome server memory past).calls <+:
        familyCalls memory ++
          questions reference (resolve reference session.defaultOwner).owner
            (split reference).2 family := by
  cases known : memory.find? (session.key reference) with
  | some table =>
      rw [outcome_table_of_find?_some session reference known]
      exact ⟨.v12, List.nil_prefix⟩
  | none =>
      rw [outcome_table_of_find?_none session reference known,
        calls_fetchTable]
      split
      · exact ⟨.v12, List.prefix_append _ _⟩
      · next family found =>
          have course := Loader.course_of_load server ()
            (past ++ familyCalls memory) family session.defaultOwner reference
          have questioned := course.calls_isPrefix
          simp only [Loader.inquiryOf_counting, Loader.Inquiry.about,
            Loader.inquiryOf_name, Loader.inquiryOf_family, Loader.callAbout,
            resolve_name] at questioned
          exact ⟨family, (List.prefix_append_right_inj _).2 questioned⟩

/-- A session takes every reference for the table that it resolves to. -/
theorem addresses_resolve (session : Session Cache) (reference : Text) :
    session.Addresses reference
      (resolve reference session.defaultOwner).owner (split reference).2 where
  compared other := by
    rw [sameReference, sameTable, Bool.and_eq_true, resolve_name reference]
  asked := calls_table_isPrefix session reference
  loaded := by
    intro server memory past table unknown found
    rw [outcome_table_of_find?_none session reference unknown] at found
    rw [(described_of_fetchTable found).1, resolve_name]
    exact ⟨rfl, rfl⟩
  given := by
    intro server operations table known
    obtain ⟨source, keys, named⟩ := isKeyed_of_table operations known
    obtain ⟨-, owners, names⟩ := (session.key_eq_iff source reference).1 keys
    rw [named, resolve_name]
    exact ⟨owners, names⟩

/--
A reference is taken for a table of the owner that it names, by default the
default owner.
-/
theorem addresses_of_split {given : Option Text}
    (read : split reference = (given, name)) :
    session.Addresses reference (given.getD session.defaultOwner) name := by
  have addresses := session.addresses_resolve reference
  rwa [resolve_owner, read] at addresses

/--
Quoted names as references, with and without an owner.  They are read as the
names without their brackets.  This gives back what was quoted exactly if
there are no dots in it, and then a session takes the reference for the table
of that owner and that name.
-/
theorem quoted_reference (session : Session Cache) {owner name : Text}
    (plainOwner : IsPlain owner) (plainName : IsPlain name) :
    let qualified := quote owner ++ '.' :: quote name
    (split qualified = split (owner ++ '.' :: name) ∧
      split (quote name) = split name) ∧
    (split qualified = (some owner, name) ↔ '.' ∉ owner ∧ '.' ∉ name) ∧
    (split (quote name) = (none, name) ↔ '.' ∉ name) ∧
    ('.' ∉ owner → '.' ∉ name →
      session.Addresses qualified owner name) ∧
    ('.' ∉ name →
      session.Addresses (quote name) session.defaultOwner name) := by
  intro qualified
  have readQualified : split qualified = split (owner ++ '.' :: name) :=
    split_quote_append_dot owner name
  have readName : split (quote name) = split name := split_quote name
  have whole :
      split qualified = (some owner, name) ↔ '.' ∉ owner ∧ '.' ∉ name := by
    rw [readQualified]
    exact split_eq_some_iff plainName plainOwner
  have bare : split (quote name) = (none, name) ↔ '.' ∉ name := by
    rw [readName]
    exact split_eq_none_iff plainName
  refine ⟨⟨readQualified, readName⟩, whole, bare, ?_, ?_⟩
  · intro dotless dotless'
    exact addresses_of_split (whole.2 ⟨dotless, dotless'⟩)
  · intro dotless
    exact addresses_of_split (bare.2 dotless)

/-- Blanks, quotes and colons are read back. -/
theorem quoted_order_lines :
    let session : Session TableEntries := ⟨"dba".toList, none, 1024⟩
    let owner := "app user".toList
    let name := "order:lines' ".toList ++ ['"']
    let qualified := "[app user].[order:lines' ".toList ++ ['"', ']']
    split qualified = (some owner, name) ∧
      session.Addresses qualified owner name ∧
      session.Addresses (quote name) "dba".toList name := by
  intro session owner name qualified
  have plainOwner : IsPlain owner :=
    ⟨by decide, by decide, by decide, by decide⟩
  have plainName : IsPlain name :=
    ⟨by decide, by decide, by decide, by decide⟩
  obtain ⟨-, whole, -, addressed, addressedBare⟩ :=
    session.quoted_reference plainOwner plainName
  have quoted : quote owner ++ '.' :: quote name = qualified := by decide
  rw [quoted] at whole addressed
  exact ⟨whole.2 ⟨by decide, by decide⟩,
    addressed (by decide) (by decide), addressedBare (by decide)⟩

/-- Brackets do not keep an owner or a name with a dot in it together. -/
theorem dotted_quoted_reference :
    let owner := "j.smith".toList
    let name := "Users".toList
    let dotted := "order.lines".toList
    (IsPlain owner ∧ IsPlain name ∧ IsPlain dotted) ∧
      split (quote owner ++ '.' :: quote name) =
        (some "smith".toList, name) ∧
      split (quote owner ++ '.' :: quote name) ≠ (some owner, name) ∧
      split (quote dotted) = (some "order".toList, "lines".toList) ∧
      split (quote dotted) ≠ (none, dotted) := by
  intro owner name dotted
  have plain (text : Text)
      (checked : text ≠ [] ∧ Text.trim text = text ∧
        '[' ∉ text ∧ ']' ∉ text) : IsPlain text :=
    ⟨checked.1, checked.2.1, checked.2.2.1, checked.2.2.2⟩
  exact ⟨⟨plain owner (by decide), plain name (by decide),
    plain dotted (by decide)⟩, by decide, by decide, by decide, by decide⟩

end Session

end SqlAnywhere
