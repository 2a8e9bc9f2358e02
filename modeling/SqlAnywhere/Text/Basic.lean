/-!
# Texts

A text is the list of its characters.  Every rule of the library reads and
writes texts, so that each of them is a recursion on characters; `String`
serves for constants and for messages.  This module finds the last mark and
the fragments of a text and writes a mark twice; parts between marks are
`List.splitOn` and `List.intercalate`.
-/

namespace SqlAnywhere

/-- A text, as the list of its characters. -/
abbrev Text := List Char

namespace Text

/-- What stands before and after the last occurrence of a mark. -/
def splitLast? (mark : Char) : Text → Option (Text × Text)
  | [] => none
  | character :: rest =>
      match splitLast? mark rest with
      | some (before, after) => some (character :: before, after)
      | none => if character = mark then some ([], rest) else none

/-- Whether a fragment occurs somewhere in a text. -/
def hasFragment (fragment : Text) : Text → Bool
  | [] => fragment.isEmpty
  | character :: rest =>
      fragment.isPrefixOf (character :: rest) || hasFragment fragment rest

/-- A text in which every occurrence of a mark is written twice. -/
def doubled (mark : Char) (text : Text) : Text :=
  text.flatMap fun character =>
    if character = mark then [mark, mark] else [character]

/--
A text in which every pair of neighbouring marks, read from the left, is one
mark.
-/
def undoubled (mark : Char) : Text → Text
  | [] => []
  | [character] => [character]
  | first :: second :: rest =>
      if first = mark ∧ second = mark then
        mark :: undoubled mark rest
      else
        first :: undoubled mark (second :: rest)

/-- What a check of a text finds holds of its characters. -/
theorem forall_mem_of_all {property : Char → Prop}
    [DecidablePred property] {text : Text}
    (checked : text.all fun character => decide (property character)) :
    ∀ character ∈ text, property character := by
  simpa using checked

/-- There is no last mark exactly where there is no mark. -/
theorem splitLast?_eq_none_iff (mark : Char) (text : Text) :
    splitLast? mark text = none ↔ mark ∉ text := by
  induction text with
  | nil => simp [splitLast?]
  | cons character rest absent =>
      rw [splitLast?]
      cases found : splitLast? mark rest with
      | some parts =>
          have present : mark ∈ rest := by
            by_cases member : mark ∈ rest
            · exact member
            · rw [absent.2 member] at found
              cases found
          simp [present]
      | none =>
          have missing := absent.1 found
          by_cases marked : character = mark
          · simp [marked]
          · simp [marked, missing, Ne.symm marked]

/--
The two sides of the last mark, joined by it, are the text, and the right one
holds no mark.
-/
theorem eq_append_of_splitLast?
    {mark : Char} {text before after : Text}
    (found : splitLast? mark text = some (before, after)) :
    text = before ++ mark :: after ∧ mark ∉ after := by
  induction text generalizing before after with
  | nil => cases found
  | cons character rest parts =>
      rw [splitLast?] at found
      split at found
      · next earlier later inner =>
          simp only [Option.some.injEq, Prod.mk.injEq] at found
          obtain ⟨rfl, rfl⟩ := found
          obtain ⟨whole, unmarked⟩ := parts inner
          exact ⟨by simp [whole], unmarked⟩
      · next missing =>
          split at found
          · next marked =>
              simp only [Option.some.injEq, Prod.mk.injEq] at found
              obtain ⟨rfl, rfl⟩ := found
              exact ⟨by simp [marked],
                (splitLast?_eq_none_iff mark rest).1 missing⟩
          · cases found

/-- A text in which a mark occurs has a last one. -/
theorem exists_last_of_mem {mark : Char} {text : Text} (member : mark ∈ text) :
    ∃ before after, text = before ++ mark :: after ∧ mark ∉ after := by
  cases found : splitLast? mark text with
  | none => exact absurd member ((splitLast?_eq_none_iff mark text).1 found)
  | some parts => exact ⟨parts.1, parts.2, eq_append_of_splitLast? found⟩

/-- The last mark is the one after which there is none. -/
theorem splitLast?_append {mark : Char} {after : Text}
    (unmarked : mark ∉ after) (before : Text) :
    splitLast? mark (before ++ mark :: after) = some (before, after) := by
  induction before with
  | nil =>
      have missing := (splitLast?_eq_none_iff mark after).2 unmarked
      rw [List.nil_append, splitLast?, missing]
      simp
  | cons character rest found =>
      rw [List.cons_append, splitLast?, found]

/-- Of texts with a mark, the parts around the last one are determined. -/
theorem append_mark_inj
    {mark : Char} {before before' after after' : Text}
    (last : mark ∉ after) (last' : mark ∉ after') :
    before ++ mark :: after = before' ++ mark :: after' ↔
      before = before' ∧ after = after' := by
  constructor
  · intro whole
    have parts := splitLast?_append last before
    rw [whole, splitLast?_append last'] at parts
    simpa [eq_comm] using parts
  · rintro ⟨rfl, rfl⟩
    rfl

/-- A text is determined by its parts. -/
theorem splitOn_inj {mark : Char} {text text' : Text} :
    text.splitOn mark = text'.splitOn mark ↔ text = text' := by
  constructor
  · intro parts
    have joined := congrArg [mark].intercalate parts
    rwa [List.intercalate_splitOn, List.intercalate_splitOn] at joined
  · rintro rfl
    rfl

/--
A part of a text that is split at a mark holds characters of the text, and
not the mark.
-/
theorem part_of_mem_splitOn
    {mark : Char} {text part : Text}
    (member : part ∈ text.splitOn mark) :
    part ⊆ text ∧ mark ∉ part := by
  induction text generalizing part with
  | nil => simp_all
  | cons character rest parts =>
      rw [List.splitOn_cons_eq_if_modifyHead] at member
      split at member
      · rcases List.mem_cons.1 member with rfl | member
        · exact ⟨List.nil_subset _, List.not_mem_nil⟩
        · obtain ⟨inside, unmarked⟩ := parts member
          exact ⟨List.subset_cons_of_subset _ inside, unmarked⟩
      · next different =>
          cases shape : rest.splitOn mark with
          | nil => simp [shape] at member
          | cons first others =>
              rw [shape, List.modifyHead_cons, List.mem_cons] at member
              rcases member with rfl | member
              · obtain ⟨inside, unmarked⟩ := @parts first (by simp [shape])
                refine ⟨List.cons_subset_cons _ inside, ?_⟩
                simpa [Ne.symm (by simpa using different)] using unmarked
              · obtain ⟨inside, unmarked⟩ := @parts part (by simp [shape, member])
                exact ⟨List.subset_cons_of_subset _ inside, unmarked⟩

@[simp]
theorem doubled_nil (mark : Char) : doubled mark [] = [] := rfl

theorem doubled_cons (mark character : Char) (rest : Text) :
    doubled mark (character :: rest) =
      (if character = mark then [mark, mark] else [character]) ++
        doubled mark rest := by
  simp [doubled]

theorem doubled_append (mark : Char) (text rest : Text) :
    doubled mark (text ++ rest) = doubled mark text ++ doubled mark rest :=
  List.flatMap_append

@[simp]
theorem undoubled_nil (mark : Char) : undoubled mark [] = [] := rfl

/-- A character is no mark of a pair if it is no mark. -/
theorem undoubled_cons_of_ne {mark character : Char} (other : character ≠ mark)
    (rest : Text) :
    undoubled mark (character :: rest) = character :: undoubled mark rest := by
  cases rest with
  | nil => rfl
  | cons next others => simp [undoubled, other]

/-- A character is no mark of a pair if no mark follows. -/
theorem undoubled_cons_of_head?_ne {mark : Char} {rest : Text}
    (other : rest.head? ≠ some mark) (character : Char) :
    undoubled mark (character :: rest) = character :: undoubled mark rest := by
  cases rest with
  | nil => rfl
  | cons next others =>
      have different : next ≠ mark := by simpa using other
      simp [undoubled, different]

/-- Undoubling reads back what doubling wrote, whatever stands after it. -/
theorem undoubled_doubled_append (mark : Char) (text rest : Text) :
    undoubled mark (doubled mark text ++ rest) =
      text ++ undoubled mark rest := by
  induction text with
  | nil => rfl
  | cons character others same =>
      rw [doubled_cons]
      by_cases marked : character = mark
      · subst marked
        simpa [undoubled] using same
      · rw [if_neg marked, List.append_assoc, List.singleton_append,
          undoubled_cons_of_ne marked, same]
        rfl

/-- Undoubling reads back what doubling wrote. -/
theorem undoubled_doubled (mark : Char) (text : Text) :
    undoubled mark (doubled mark text) = text := by
  simpa using undoubled_doubled_append mark text []

/-- A mark before what doubling wrote stays a mark of its own. -/
theorem undoubled_cons_doubled (mark : Char) (text : Text) :
    undoubled mark (mark :: doubled mark text) = mark :: text := by
  induction text with
  | nil => rfl
  | cons character others same =>
      rw [doubled_cons]
      by_cases marked : character = mark
      · subst marked
        simpa [undoubled] using same
      · rw [if_neg marked, List.singleton_append,
          undoubled_cons_of_head?_ne (by simpa using marked),
          undoubled_cons_of_ne marked, undoubled_doubled]

/--
No pair of marks reaches over the end of a text whose last character is no
mark.
-/
theorem undoubled_append {mark : Char} {text : Text}
    (ends : text.getLast? ≠ some mark) (rest : Text) :
    undoubled mark (text ++ rest) =
      undoubled mark text ++ undoubled mark rest := by
  fun_induction undoubled mark text with
  | case1 => rfl
  | case2 character =>
      have other : character ≠ mark := by simpa using ends
      exact undoubled_cons_of_ne other rest
  | case3 first second others marked ih =>
      have later : others.getLast? ≠ some mark := by
        intro last
        exact ends (by simp [List.getLast?_cons, last])
      rw [List.cons_append, List.cons_append, undoubled, if_pos marked,
        ih later]
      rfl
  | case4 first second others unmarked ih =>
      have later : (second :: others).getLast? ≠ some mark := by
        rwa [List.getLast?_cons_cons] at ends
      rw [List.cons_append, List.cons_append, undoubled, if_neg unmarked,
        ← List.cons_append, ih later]
      rfl

end Text

end SqlAnywhere
