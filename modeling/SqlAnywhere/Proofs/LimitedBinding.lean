import SqlAnywhere.Proofs.Seam
import SqlAnywhere.Proofs.SelectAnchor
import SqlAnywhere.Proofs.SharedOutlook

/-!
# Limiting and binding

A statement can be limited to a window of its rows, or asked for the existence
of rows, before its parameters are bound or afterwards.  The clause of a
window and the words around a statement hold no marks and no placeholders, and
they stand at the same place among the pieces of the statement in both orders.
-/

namespace SqlAnywhere

open Piece Segment LeadingSelect

/-! ## Where the clause stands among the pieces -/

/--
SELECT and DISTINCT end with a character that folds to their last letter.
-/
theorem LeadingSelect.IsSelect.exists_concat {keywords rest : Text}
    (select : IsSelect keywords rest) :
    ∃ others last, keywords = others ++ [last] ∧ foldCharacter last = 't' := by
  have spelled {word keyword : Text} (spells : Text.Spells word keyword)
      (ends : keyword.getLast? = some 't') :
      ∃ others last, word = others ++ [last] ∧ foldCharacter last = 't' := by
    rcases List.eq_nil_or_concat' word with rfl | ⟨others, last, rfl⟩
    · subst spells
      cases ends
    · refine ⟨others, last, rfl, ?_⟩
      subst spells
      simpa using ends
  cases select with
  | all spells => exact spelled spells (by decide)
  | @distinct word _ _ _ distinct =>
      obtain ⟨-, -, spells, -⟩ := distinct
      obtain ⟨others, last, rfl, letter⟩ := spelled spells (by decide)
      exact ⟨_, last, by rw [← List.append_assoc, ← List.append_assoc], letter⟩

theorem notMem_marks_of_folds {character : Char}
    (letter : foldCharacter character = 't') : character ∉ marks := by
  have noLetter : ∀ mark ∈ marks, foldCharacter mark ≠ 't' :=
    Text.forall_mem_of_all (by decide)
  exact fun mark => noLetter character mark letter

/--
The leading SELECT ends at the same piece of a statement and of the bound
one, which is a copied letter.
-/
theorem rest?_images_pieces (statement : Text) :
    (rest? statement = none ∧
      rest? (images (Statement.pieces statement)) = none) ∨
    ∃ front character back,
      Statement.pieces statement = front ++ kept character :: back ∧
      character ∉ marks ∧
      rest? statement = some (sources back) ∧
      rest? (images (Statement.pieces statement)) = some (images back) := by
  have named : Named (Statement.pieces statement) :=
    fun name => Statement.isParameterPart_of_mem_pieces
  have alike := (alike_outlook named).outside
  rw [Statement.sources_pieces] at alike
  rcases alike.eq_none_or with missing | ⟨front, back, whole, found, found'⟩
  · exact .inl missing
  · obtain ⟨prelude, keywords, split, -, select⟩ :=
      (tells_outlook (images (Statement.pieces statement))).outside _ found'
    obtain ⟨others, last, rfl, letter⟩ := select.exists_concat
    rw [whole, images_append] at split
    -- SELECT ends with a letter in the bound text too, and a question mark is
    -- no letter.
    have edge := congrArg List.getLast? (List.append_cancel_right split)
    rcases List.eq_nil_or_concat' front with rfl | ⟨earlier, piece, rfl⟩
    · simp at edge
    cases piece with
    | kept character =>
        have same : character = last := by simpa [image] using edge
        refine .inr ⟨earlier, character, back, ?_, ?_, found, found'⟩
        · rw [whole, List.append_assoc]
          rfl
        · rw [same]
          exact notMem_marks_of_folds letter
    | named name =>
        have question : '?' = last := by simpa [image] using edge
        rw [← question] at letter
        exact absurd letter (by decide)

/-! ## Clauses without marks -/

/-- A number has no mark in it. -/
theorem calm_ofNat (number : Nat) : Calm (Numeral.ofNat number) := by
  intro digit member mark
  have noDigit : ∀ mark ∈ marks, ¬ mark.isDigit :=
    Text.forall_mem_of_all (by decide)
  exact noDigit digit mark (Numeral.isDigit_of_mem_ofNat member)

/-- The clause of a row window has no mark in it. -/
theorem calm_clause (window : RowWindow) :
    Calm (window.clause?.getD []) := by
  have started : ∀ start ∈ RowWindow.startClause window.offset, Calm start := by
    intro start wanted
    obtain ⟨offset, -, rfl⟩ := Option.map_eq_some_iff.1 wanted
    exact Calm.append (by decide) (calm_ofNat _)
  rw [RowWindow.clause?]
  cases window.limit with
  | none =>
      cases start : RowWindow.startClause window.offset with
      | none => decide
      | some text => exact Calm.append (by decide) (started text start)
  | some limit =>
      have top : Calm (" TOP ".toList ++ Numeral.ofNat limit.toNat) :=
        Calm.append (by decide) (calm_ofNat _)
      cases start : RowWindow.startClause window.offset with
      | none => exact top.append (by decide)
      | some text => exact top.append (started text start)

namespace Statement

/-! ## The two orders -/

/--
The bound statement that another one is bound to, where its names are the
same and its text is rewritten.
-/
theorem bind_of_names_eq {statement other : Text} {rewritten : Text → Text}
    (named : names (pieces other) = names (pieces statement))
    (imaged : images (pieces other) = rewritten (images (pieces statement)))
    (parameters : List Parameter) :
    BoundStatement.bind other parameters =
      (BoundStatement.bind statement parameters).map fun bound =>
        ⟨rewritten bound.text, bound.values⟩ := by
  rw [BoundStatement.bind_eq, BoundStatement.bind_eq, named, imaged]
  cases (names (pieces statement)).mapM
    (BoundStatement.valueFor parameters) <;> rfl

/--
The pieces of a limited statement are those of the statement, with the clause
among them where it stands in the limited text of the bound one.
-/
theorem images_pieces_limited (window : RowWindow) (statement : Text) :
    names (pieces (limited window statement)) = names (pieces statement) ∧
      images (pieces (limited window statement)) =
        limited window (images (pieces statement)) := by
  rcases rest?_images_pieces statement with
    ⟨missing, missing'⟩ | ⟨front, character, back, whole, noMark, found, found'⟩
  · rw [limited_of_rest?_eq_none missing, limited_of_rest?_eq_none missing']
    exact ⟨rfl, rfl⟩
  · have calm : Calm (character :: window.clause?.getD []) :=
      List.forall_mem_cons.2 ⟨noMark, calm_clause window⟩
    have written : statement = sources front ++ [character] ++ sources back := by
      rw [← sources_pieces statement, whole]
      simp [source]
    have bound : images (pieces statement) =
        images front ++ [character] ++ images back := by
      rw [whole]
      simp [image]
    have inserted := limited_of_rest?_eq_some (written ▸ found) window
    have inserted' := limited_of_rest?_eq_some (bound ▸ found') window
    rw [← written, hasTop_sources] at inserted
    rw [← bound] at inserted'
    rw [inserted, inserted']
    split
    · exact ⟨rfl, rfl⟩
    · have parts := pieces_insert whole calm
      rw [List.append_assoc, List.append_assoc, List.singleton_append, parts,
        whole]
      simp [image]

/--
The pieces of the question for rows are those of the statement, with the
words of the question around them.
-/
theorem images_pieces_existence (statement : Text) :
    names (pieces (existence statement)) = names (pieces statement) ∧
      images (pieces (existence statement)) =
        existence (images (pieces statement)) := by
  have front : Calm "SELECT IF EXISTS(".toList := by decide
  have back : Calm ") THEN 1 ELSE 0 ENDIF".toList := by decide
  have stops : ∀ next ∈ ") THEN 1 ELSE 0 ENDIF".toList.head?,
      ¬ isParameterPart next := by
    intro next first
    have same : ')' = next := by simpa using first
    rw [← same]
    decide
  have parts : pieces (existence statement) = _ :=
    pieces_between front back stops statement
  rw [parts]
  constructor
  · rw [names_append, names_append, names_map_kept, names_map_kept,
      List.nil_append, List.append_nil]
  · rw [images_append, images_append, images_map_kept, images_map_kept]
    rfl

/--
Limiting a statement to a window of its rows, or asking for the existence of
its rows, and then binding its parameters gives the same as binding the
parameters first: the same text and values, or the same report of a
placeholder without a value.
-/
theorem binding_commutes (window : RowWindow) (statement : Text)
    (parameters : List Parameter) :
    BoundStatement.bind (limited window statement) parameters =
        (BoundStatement.bind statement parameters).map (fun bound =>
          ⟨limited window bound.text, bound.values⟩) ∧
      BoundStatement.bind (existence statement) parameters =
        (BoundStatement.bind statement parameters).map fun bound =>
          ⟨existence bound.text, bound.values⟩ := by
  constructor
  · obtain ⟨named, imaged⟩ := images_pieces_limited window statement
    exact bind_of_names_eq named imaged parameters
  · obtain ⟨named, imaged⟩ := images_pieces_existence statement
    exact bind_of_names_eq named imaged parameters

end Statement

end SqlAnywhere
