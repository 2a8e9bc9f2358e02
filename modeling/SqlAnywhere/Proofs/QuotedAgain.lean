import SqlAnywhere.Proofs.Bracketed

/-!
# Quoting what is quoted

Names of tables and columns are quoted part by part, and a part is left as it
is where it holds a bracket that opens.  The parts are those between dots, also
between dots that stand within brackets.  A name that was quoted as a whole is
therefore left alone if there is no dot in it, and is torn at its first dot
otherwise.
-/

namespace SqlAnywhere.Identifier

/--
A name of a column is quoted as that of a table, unless it ends with a star.
-/
theorem quoteColumn_eq_quoteTable {name : Text}
    (named : name.getLast? ≠ some '*') :
    quoteColumn name = quoteTable name := by
  by_cases literal : '(' ∈ name
  · rw [quoteColumn, if_pos literal, quoteTable, if_pos literal]
  by_cases dotted : '.' ∈ name
  · obtain ⟨table, column, rfl, dotless⟩ := Text.exists_last_of_mem dotted
    have literal' : '(' ∉ column := fun member => literal (by simp [member])
    have notStar : column ≠ ['*'] := by
      rintro rfl
      exact named (by simp)
    rw [quoteColumn_append_dot dotless literal, quoteTable_append_dot literal,
      quoteTable_of_dotless dotless literal', quoteColumnPart, if_neg notStar]
  · have notStar : name ≠ ['*'] := by
      rintro rfl
      exact named rfl
    rw [quoteColumn_of_dotless dotted literal,
      quoteTable_of_dotless dotted literal, quoteColumnPart, if_neg notStar]

/-! ## Parts of names between brackets -/

section Whole

variable {name first rest : Text}

@[simp]
theorem getLast?_bracketed (name : Text) :
    (bracketed name).getLast? = some ']' := by
  rw [bracketed, ← List.cons_append, List.getLast?_concat]

theorem mem_bracketed_iff {character : Char} (other : character ≠ '[')
    (other' : character ≠ ']') :
    character ∈ bracketed name ↔ character ∈ name := by
  simp [bracketed, other, other']

/--
Every part of a name between brackets has a bracket that opens only if there
is one part.
-/
theorem forall_parts_bracketed_iff (plain : '[' ∉ name) :
    (∀ part ∈ (bracketed name).splitOn '.', '[' ∈ part) ↔ '.' ∉ name := by
  constructor
  · intro parts dotted
    -- The last part ends with the bracket that closes, and has no other one.
    obtain ⟨before, last, rfl, dotless⟩ := Text.exists_last_of_mem dotted
    have dotless' : '.' ∉ last ++ [']'] := by simpa using dotless
    have shape : bracketed (before ++ '.' :: last) =
        ('[' :: before) ++ '.' :: (last ++ [']']) := by
      simp [bracketed]
    rw [shape, List.splitOn_append_cons_self,
      List.splitOn_eq_singleton dotless'] at parts
    have opened : '[' ∈ last ++ [']'] := parts _ (by simp)
    have opened' : '[' ∈ last := by simpa using opened
    exact plain (by simp [opened'])
  · intro dotless part member
    have dotless' : '.' ∉ bracketed name := by
      rwa [mem_bracketed_iff (by decide) (by decide)]
    rw [List.splitOn_eq_singleton dotless', List.mem_singleton] at member
    rw [member]
    exact List.mem_cons_self

/--
A name between brackets is torn at its first dot: what stands before keeps
its bracket, and what follows is quoted apart, with the bracket that was to
close the name.
-/
theorem quoteTable_bracketed_append_dot
    (dotless : '.' ∉ first) (literal : '(' ∉ first ++ '.' :: rest) :
    quoteTable (bracketed (first ++ '.' :: rest)) =
      '[' :: first ++ '.' :: quoteTable (rest ++ [']']) := by
  have shape : bracketed (first ++ '.' :: rest) =
      ('[' :: first) ++ '.' :: (rest ++ [']']) := by
    simp [bracketed]
  have literal' : '(' ∉ ('[' :: first) ++ '.' :: (rest ++ [']']) := by
    rwa [← shape, mem_bracketed_iff (by decide) (by decide)]
  have single : quoteTable ('[' :: first) = '[' :: first := by
    rw [quoteTable_of_dotless (by simpa using dotless)
      (fun member => literal' (List.mem_append_left _ member))]
    exact (quote_eq_self_iff _).2 List.mem_cons_self
  rw [shape, quoteTable_append_dot literal', single]

end Whole

/-! ## Quoting again -/

section Again

variable {name other : Text} (plain : '[' ∉ name) (literal : '(' ∉ name)

include plain literal

/--
A quoted name is left alone as the name of a table or a column exactly if it
holds no dot.
-/
theorem quoteTable_quote_eq_self_iff :
    quoteTable (quote name) = quote name ↔ '.' ∉ name := by
  have literal' : '(' ∉ bracketed name := by
    rwa [mem_bracketed_iff (by decide) (by decide)]
  rw [quote_of_notMem plain, quoteTable_eq_self_iff literal',
    forall_parts_bracketed_iff plain]

/--
Two quoted names around a dot are left alone exactly if neither holds a dot.
-/
theorem quoteTable_quote_append_eq_self_iff
    (plain' : '[' ∉ other) (literal' : '(' ∉ other) :
    quoteTable (quote name ++ '.' :: quote other) =
        quote name ++ '.' :: quote other ↔
      '.' ∉ name ∧ '.' ∉ other := by
  have literal'' : '(' ∉ bracketed name ++ '.' :: bracketed other := by
    simp [mem_bracketed_iff, literal, literal']
  rw [quote_of_notMem plain, quote_of_notMem plain',
    quoteTable_eq_self_iff literal'', List.splitOn_append_cons_self,
    List.forall_mem_append, forall_parts_bracketed_iff plain,
    forall_parts_bracketed_iff plain']

/--
A name that is quoted as a whole, quoted again as the name of a table or of a
column, and after another one.  It stays the same exactly if it holds no dot;
otherwise it is torn at the first dot, and the two parts are quoted apart.
-/
theorem quoted_again :
    quoteColumn (quote name) = quoteTable (quote name) ∧
    (quoteTable (quote name) = quote name ↔ '.' ∉ name) ∧
    (quoteColumn (quote name) = quote name ↔ '.' ∉ name) ∧
    (∀ other, '[' ∉ other → '(' ∉ other →
      let joined := quote name ++ '.' :: quote other
      (quoteTable joined = joined ↔ '.' ∉ name ∧ '.' ∉ other) ∧
      (quoteColumn joined = joined ↔ '.' ∉ name ∧ '.' ∉ other)) ∧
    ∀ first rest, name = first ++ '.' :: rest → '.' ∉ first →
      quoteTable (quote name) =
        '[' :: first ++ '.' :: quoteTable (rest ++ [']']) := by
  have quoted := quote_of_notMem plain
  have column : quoteColumn (quote name) = quoteTable (quote name) := by
    refine quoteColumn_eq_quoteTable ?_
    simp [quoted]
  have table := quoteTable_quote_eq_self_iff plain literal
  refine ⟨column, table, ?_, ?_, ?_⟩
  · rwa [column]
  · intro other plain' literal' joined
    have column' : quoteColumn joined = quoteTable joined := by
      refine quoteColumn_eq_quoteTable ?_
      simp [joined, quote_of_notMem plain', List.getLast?_cons]
    have table' := quoteTable_quote_append_eq_self_iff plain literal
      plain' literal'
    exact ⟨table', by rwa [column']⟩
  · rintro first rest rfl dotless
    rw [quoted, quoteTable_bracketed_append_dot dotless literal]

end Again

/-- Names with blanks, quotes and colons stay the same. -/
theorem order_lines_quoted_again :
    let table := "order lines:'all'".toList
    let column := "unit price".toList
    quoteTable (quote table) = "[order lines:'all']".toList ∧
      quoteColumn (quote column) = "[unit price]".toList ∧
      quoteColumn (quote table ++ '.' :: quote column) =
        "[order lines:'all'].[unit price]".toList := by
  intro table column
  obtain ⟨-, whole, -, joined, -⟩ :=
    quoted_again (show '[' ∉ table by decide) (show '(' ∉ table by decide)
  obtain ⟨-, -, whole', -, -⟩ :=
    quoted_again (show '[' ∉ column by decide) (show '(' ∉ column by decide)
  have same := (joined column (by decide) (by decide)).2
  exact ⟨(whole.2 (by decide)).trans (by decide),
    (whole'.2 (by decide)).trans (by decide),
    (same.2 ⟨by decide, by decide⟩).trans (by decide)⟩

/-- A quoted name with a dot in it is torn there. -/
theorem dotted_name_quoted_again :
    let name := "a.b".toList
    ('[' ∉ name ∧ ']' ∉ name ∧ '(' ∉ name ∧ ')' ∉ name) ∧
      quote name = "[a.b]".toList ∧
      quoteTable (quote name) = "[a.[b]]".toList ∧
      quoteTable (quote name) ≠ quote name ∧
      quoteColumn (quote name) ≠ quote name ∧
      quoteColumn (quote "t".toList ++ '.' :: quote name) ≠
        quote "t".toList ++ '.' :: quote name := by
  intro name
  exact ⟨by decide, by decide, by decide, by decide, by decide, by decide⟩

end SqlAnywhere.Identifier
