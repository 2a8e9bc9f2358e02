import SqlAnywhere.Sql.Identifier

/-!
# Names between brackets

Quoting is made for the references that users write: it takes a name apart at
its dots, and takes one with an opening parenthesis for an expression.  This
module tells which names come out as one part between brackets.
-/

namespace SqlAnywhere

namespace Identifier

/-- A name as one part between brackets. -/
def bracketed (name : Text) : Text :=
  '[' :: (name ++ [']'])

/-- A name that quoting neither takes apart nor takes for an expression. -/
structure IsOnePart (name : Text) : Prop where
  dotless : '.' ∉ name
  literal : '(' ∉ name

/-! ## Quoting part by part -/

section Parts

variable {name first last rest : Text}

theorem quote_of_notMem (plain : '[' ∉ name) : quote name = bracketed name := by
  rw [quote, if_neg plain]
  rfl

/-- A name is left as it is where it is taken to be quoted already. -/
theorem quote_eq_self_iff (name : Text) : quote name = name ↔ '[' ∈ name := by
  constructor
  · intro same
    rw [quote] at same
    split at same
    · next quoted => exact quoted
    · have lengths := congrArg List.length same
      simp only [List.length_append, List.length_cons,
        List.length_nil] at lengths
      omega
  · intro quoted
    rw [quote, if_pos quoted]

theorem dot_mem_quote_iff (name : Text) : '.' ∈ quote name ↔ '.' ∈ name := by
  rw [quote]
  split <;> simp

/-- A name without dots is quoted as a whole. -/
theorem quoteTable_of_dotless (dotless : '.' ∉ name) (literal : '(' ∉ name) :
    quoteTable name = quote name := by
  rw [quoteTable, if_neg literal, List.splitOn_eq_singleton dotless,
    List.map_singleton, List.intercalate_singleton]

/--
The parts of a quoted name are the parts of the name, each of them quoted.
-/
theorem splitOn_quoteTable (literal : '(' ∉ name) :
    (quoteTable name).splitOn '.' = (name.splitOn '.').map quote := by
  rw [quoteTable, if_neg literal]
  refine List.splitOn_intercalate '.' ?_ ?_
  · intro quoted member dotted
    obtain ⟨part, listed, rfl⟩ := List.mem_map.1 member
    exact (Text.part_of_mem_splitOn listed).2 ((dot_mem_quote_iff part).1 dotted)
  · simp

/-- What stands around a dot is quoted apart. -/
theorem quoteTable_append_dot (literal : '(' ∉ first ++ '.' :: rest) :
    quoteTable (first ++ '.' :: rest) =
      quoteTable first ++ '.' :: quoteTable rest := by
  have literal₁ : '(' ∉ first := fun member => literal (by simp [member])
  have literal₂ : '(' ∉ rest := fun member => literal (by simp [member])
  rw [← Text.splitOn_inj, splitOn_quoteTable literal,
    List.splitOn_append_cons_self, List.splitOn_append_cons_self,
    splitOn_quoteTable literal₁, splitOn_quoteTable literal₂, List.map_append]

/--
A name is left as it is where each of its parts is taken to be quoted
already.
-/
theorem quoteTable_eq_self_iff (literal : '(' ∉ name) :
    quoteTable name = name ↔ ∀ part ∈ name.splitOn '.', '[' ∈ part := by
  have same := @List.map_inj_left _ _ (name.splitOn '.') quote id
  simp only [List.map_id, id, quote_eq_self_iff] at same
  rw [← same, ← splitOn_quoteTable literal, Text.splitOn_inj]

/--
A column is quoted apart from the name of its table, which stands before the
last dot.
-/
theorem quoteColumn_append_dot
    (dotless : '.' ∉ last) (literal : '(' ∉ first ++ '.' :: last) :
    quoteColumn (first ++ '.' :: last) =
      quoteTable first ++ '.' :: quoteColumnPart last := by
  rw [quoteColumn, if_neg literal, Text.splitLast?_append dotless]

/-- A column without dots is quoted as a whole. -/
theorem quoteColumn_of_dotless (dotless : '.' ∉ name) (literal : '(' ∉ name) :
    quoteColumn name = quoteColumnPart name := by
  rw [quoteColumn, if_neg literal,
    (Text.splitLast?_eq_none_iff '.' name).2 dotless]

end Parts

/-! ## What quoting begins with -/

section Beginnings

variable {name first rest after after' : Text}

/-- What begins with a name without brackets does not begin with a bracket. -/
theorem append_ne_bracketed_append
    (plain : '[' ∉ name) (filled : name ≠ []) {other : Text} :
    name ++ after ≠ bracketed other ++ after' := by
  intro same
  cases name with
  | nil => exact filled rfl
  | cons character others =>
      have opening : character = '[' := List.head_eq_of_cons_eq same
      exact plain (opening ▸ List.mem_cons_self)

/--
The brackets around the first part of a name are not those around the whole
name.
-/
theorem bracketed_append_ne :
    bracketed first ++ after ≠ bracketed (first ++ '.' :: rest) ++ after' := by
  -- After the first part a bracket closes on one side, and a dot stands on
  -- the other.
  intro same
  simp only [bracketed, List.cons_append, List.append_assoc,
    List.cons.injEq, true_and, List.append_cancel_left_eq] at same
  exact absurd same.1 (by decide)

theorem quoteTable_of_isOnePart
    (plain : '[' ∉ name) (part : IsOnePart name) :
    quoteTable name = bracketed name := by
  rw [quoteTable_of_dotless part.dotless part.literal, quote_of_notMem plain]

/-- A quoted name with a dot begins with its first part between brackets. -/
theorem exists_quoteTable_eq
    (plain : '[' ∉ name) (literal : '(' ∉ name) (dotted : '.' ∈ name) :
    ∃ first rest after,
      name = first ++ '.' :: rest ∧
        quoteTable name = bracketed first ++ after := by
  obtain ⟨first, rest, rfl, dotless⟩ := List.eq_append_cons_of_mem dotted
  have plain' : '[' ∉ first :=
    fun member => plain (List.mem_append_left _ member)
  have literal' : '(' ∉ first :=
    fun member => literal (List.mem_append_left _ member)
  refine ⟨first, rest, '.' :: quoteTable rest, rfl, ?_⟩
  rw [quoteTable_append_dot literal,
    quoteTable_of_isOnePart plain' ⟨dotless, literal'⟩]

/-- A quoted column with a dot begins with its first part between brackets. -/
theorem exists_quoteColumn_eq
    (plain : '[' ∉ name) (literal : '(' ∉ name) (dotted : '.' ∈ name) :
    ∃ first rest after,
      name = first ++ '.' :: rest ∧
        quoteColumn name = bracketed first ++ after := by
  obtain ⟨table, column, rfl, dotless⟩ := Text.exists_last_of_mem dotted
  rw [quoteColumn_append_dot dotless literal]
  have plain' : '[' ∉ table :=
    fun member => plain (List.mem_append_left _ member)
  have literal' : '(' ∉ table :=
    fun member => literal (List.mem_append_left _ member)
  by_cases inner : '.' ∈ table
  · obtain ⟨first, rest, after, rfl, quoted⟩ :=
      exists_quoteTable_eq plain' literal' inner
    refine ⟨first, rest ++ '.' :: column,
      after ++ '.' :: quoteColumnPart column, by simp, ?_⟩
    simp only [quoted, List.append_assoc]
  · refine ⟨table, column, '.' :: quoteColumnPart column, rfl, ?_⟩
    rw [quoteTable_of_isOnePart plain' ⟨inner, literal'⟩]

end Beginnings

/-! ## Names that come out as one part -/

section OnePart

variable {name after after' : Text} (plain : '[' ∉ name)

include plain

/-- A quoted name that begins with the name between brackets is one part. -/
theorem isOnePart_of_quoteTable
    (same : quoteTable name ++ after = bracketed name ++ after') :
    IsOnePart name := by
  have literal : '(' ∉ name := by
    intro expression
    rw [quoteTable, if_pos expression] at same
    exact append_ne_bracketed_append plain (List.ne_nil_of_mem expression) same
  refine ⟨?_, literal⟩
  intro dotted
  obtain ⟨first, rest, between, whole, quoted⟩ :=
    exists_quoteTable_eq plain literal dotted
  rw [quoted, whole, List.append_assoc] at same
  exact bracketed_append_ne same

/--
A quoted column that begins with its name between brackets is one part, and
no star.
-/
theorem isOnePart_of_quoteColumn
    (same : quoteColumn name ++ after = bracketed name ++ after') :
    IsOnePart name ∧ name ≠ ['*'] := by
  have literal : '(' ∉ name := by
    intro expression
    rw [quoteColumn, if_pos expression] at same
    exact append_ne_bracketed_append plain (List.ne_nil_of_mem expression) same
  have dotless : '.' ∉ name := by
    intro dotted
    obtain ⟨first, rest, between, whole, quoted⟩ :=
      exists_quoteColumn_eq plain literal dotted
    rw [quoted, whole, List.append_assoc] at same
    exact bracketed_append_ne same
  refine ⟨⟨dotless, literal⟩, ?_⟩
  rintro rfl
  cases same

theorem quoteColumn_of_isOnePart
    (part : IsOnePart name) (named : name ≠ ['*']) :
    quoteColumn name = bracketed name := by
  rw [quoteColumn_of_dotless part.dotless part.literal, quoteColumnPart,
    if_neg named, quote_of_notMem plain]

end OnePart

/-! ## Names of tables with their owners -/

section Owners

variable {owner name : Text}
  (plain : '[' ∉ owner) (plain' : '[' ∉ name) (dotless : '.' ∉ name)

include plain plain' dotless

/--
Owner and name of a table come out as two parts where the owner is one part
and the name is no expression.
-/
theorem quoteTable_qualified_eq_iff :
    quoteTable (owner ++ '.' :: name) =
        bracketed owner ++ '.' :: bracketed name ↔
      IsOnePart owner ∧ '(' ∉ name := by
  constructor
  · intro same
    have literal : '(' ∉ owner ++ '.' :: name := by
      intro expression
      have plain'' : '[' ∉ owner ++ '.' :: name := by simp [plain, plain']
      rw [quoteTable, if_pos expression,
        ← List.append_nil (owner ++ '.' :: name)] at same
      exact append_ne_bracketed_append plain''
        (List.ne_nil_of_mem expression) same
    have dotless' : '.' ∉ owner := by
      intro dotted
      obtain ⟨first, rest, rfl, new⟩ := List.eq_append_cons_of_mem dotted
      have plain'' : '[' ∉ first :=
        fun member => plain (List.mem_append_left _ member)
      have literal' : '(' ∉ first := fun member => literal (by simp [member])
      rw [List.append_assoc, List.cons_append] at literal
      rw [List.append_assoc, List.cons_append, quoteTable_append_dot literal,
        quoteTable_of_isOnePart plain'' ⟨new, literal'⟩] at same
      exact bracketed_append_ne same
    rw [List.mem_append, List.mem_cons, not_or, not_or] at literal
    exact ⟨⟨dotless', literal.1⟩, literal.2.2⟩
  · rintro ⟨part, literal⟩
    have literal' : '(' ∉ owner ++ '.' :: name := by
      simp [part.literal, literal]
    rw [quoteTable_append_dot literal', quoteTable_of_isOnePart plain part,
      quoteTable_of_isOnePart plain' ⟨dotless, literal⟩]

end Owners

end Identifier

end SqlAnywhere
