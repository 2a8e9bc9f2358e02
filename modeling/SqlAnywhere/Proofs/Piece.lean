import SqlAnywhere.Proofs.Binding

/-!
# Pieces of a statement

Binding copies the characters of a statement one by one, but for the
placeholders.  The pieces of a statement are these characters and the
placeholders as wholes.  A statement and the text it is bound to are two
writings of the same pieces.
-/

namespace SqlAnywhere

open Segment

/-- What binding copies or replaces as a whole. -/
inductive Piece where
  /-- A character that is copied. -/
  | kept (character : Char)
  /-- A placeholder for the parameter of a name. -/
  | named (name : Text)
deriving DecidableEq

namespace Piece

/-- A piece as it stands in a statement. -/
def source : Piece → Text
  | kept character => [character]
  | named name => ':' :: name

/-- A piece as it stands in a bound statement. -/
def image : Piece → Text
  | kept character => [character]
  | named _ => ['?']

/-- The name of the parameter that a piece stands for. -/
def name? : Piece → Option Text
  | kept _ => none
  | named name => some name

/-- The text that pieces make up in a statement. -/
def sources (pieces : List Piece) : Text :=
  pieces.flatMap source

/-- The text that pieces make up in a bound statement. -/
def images (pieces : List Piece) : Text :=
  pieces.flatMap image

/-- The names of the parameters that pieces stand for, in order. -/
def names (pieces : List Piece) : List Text :=
  pieces.filterMap name?

@[simp]
theorem sources_nil : sources [] = [] := rfl

@[simp]
theorem images_nil : images [] = [] := rfl

@[simp]
theorem sources_cons (piece : Piece) (pieces : List Piece) :
    sources (piece :: pieces) = piece.source ++ sources pieces := rfl

@[simp]
theorem images_cons (piece : Piece) (pieces : List Piece) :
    images (piece :: pieces) = piece.image ++ images pieces := rfl

@[simp]
theorem sources_append (front back : List Piece) :
    sources (front ++ back) = sources front ++ sources back :=
  List.flatMap_append

@[simp]
theorem images_append (front back : List Piece) :
    images (front ++ back) = images front ++ images back :=
  List.flatMap_append

@[simp]
theorem names_kept_cons (character : Char) (pieces : List Piece) :
    names (kept character :: pieces) = names pieces := rfl

@[simp]
theorem names_append (front back : List Piece) :
    names (front ++ back) = names front ++ names back :=
  List.filterMap_append

@[simp]
theorem sources_map_kept (text : Text) : sources (text.map kept) = text := by
  induction text with
  | nil => rfl
  | cons character text ih => exact congrArg (character :: ·) ih

@[simp]
theorem images_map_kept (text : Text) : images (text.map kept) = text := by
  induction text with
  | nil => rfl
  | cons character text ih => exact congrArg (character :: ·) ih

@[simp]
theorem names_map_kept (text : Text) : names (text.map kept) = [] := by
  induction text with
  | nil => rfl
  | cons character text ih => exact ih

end Piece

open Piece

namespace Segment

/--
The pieces of a segment: a placeholder is one piece, and each character of
any other segment.
-/
def pieces (segment : Segment) : List Piece :=
  match segment.parameter? with
  | none => segment.text.map kept
  | some name => [.named name]

theorem pieces_of_parameter?_eq_none {segment : Segment}
    (plain : segment.parameter? = none) :
    segment.pieces = segment.text.map kept := by
  rw [pieces, plain]

theorem images_pieces (segment : Segment) :
    images segment.pieces = segment.marked := by
  rw [pieces, Segment.marked]
  cases segment.parameter? with
  | none => exact images_map_kept segment.text
  | some name => rfl

theorem names_pieces (segment : Segment) :
    names segment.pieces = segment.parameter?.toList := by
  rw [pieces]
  cases segment.parameter? with
  | none => exact names_map_kept segment.text
  | some name => rfl

theorem Begins.sources_pieces {segment : Segment} {rest : Text}
    (begins : Begins segment rest) : sources segment.pieces = segment.text := by
  rw [pieces]
  cases placeholder : segment.parameter? with
  | none => exact sources_map_kept segment.text
  | some name =>
      rw [(begins.of_parameter?_eq_some placeholder).1]
      simp [source]

end Segment

namespace Statement

/-- The pieces of a statement. -/
def pieces (statement : Text) : List Piece :=
  (scan statement).flatMap Segment.pieces

@[simp]
theorem pieces_nil : pieces [] = [] := by
  simp [pieces]

/-- The pieces of the first segment come before those of the rest. -/
theorem pieces_append_of_begins {segment : Segment} {rest : Text}
    (begins : Begins segment rest) :
    pieces (segment.text ++ rest) = segment.pieces ++ pieces rest := by
  rw [pieces, scan_append_of_begins begins]
  rfl

/-- A statement is made up of its pieces. -/
@[simp]
theorem sources_pieces (statement : Text) :
    sources (pieces statement) = statement := by
  induction statement using induction_on_segments with
  | nil => simp
  | segment segment rest begins ih =>
      rw [pieces_append_of_begins begins, sources_append,
        begins.sources_pieces, ih]

/-- A placeholder has a name of characters that a name may hold. -/
theorem isParameterPart_of_mem_pieces {statement name : Text}
    (member : named name ∈ pieces statement) :
    ∀ part ∈ name, isParameterPart part := by
  induction statement using induction_on_segments with
  | nil => simp at member
  | segment segment rest begins ih =>
      rw [pieces_append_of_begins begins, List.mem_append] at member
      rcases member with member | member
      · rw [Segment.pieces] at member
        cases placeholder : segment.parameter? with
        | none => simp [placeholder] at member
        | some other =>
            rw [placeholder, List.mem_singleton] at member
            cases member
            exact (begins.of_parameter?_eq_some placeholder).2
      · exact ih member

end Statement

/--
A statement is bound to the images of its pieces, with the values for their
names.
-/
theorem BoundStatement.bind_eq (statement : Text)
    (parameters : List Parameter) :
    bind statement parameters =
      ((names (Statement.pieces statement)).mapM (valueFor parameters)).map
        fun values => ⟨images (Statement.pieces statement), values⟩ := by
  have listed : names (Statement.pieces statement) =
      (scan statement).filterMap parameter? := by
    rw [Statement.pieces]
    induction scan statement with
    | nil => rfl
    | cons segment segments ih =>
        rw [List.flatMap_cons, names_append, names_pieces, ih]
        cases placeholder : segment.parameter? with
        | none => rw [List.filterMap_cons_none placeholder]; rfl
        | some name => rw [List.filterMap_cons_some placeholder]; rfl
  have imaged : images (Statement.pieces statement) =
      (scan statement).flatMap Segment.marked := by
    rw [Statement.pieces]
    induction scan statement with
    | nil => rfl
    | cons segment segments ih =>
        rw [List.flatMap_cons, images_append, images_pieces, ih]
        rfl
  rw [listed, imaged]
  exact ofSegments_eq parameters (scan statement)

end SqlAnywhere
