import SqlAnywhere.Text.Basic

/-!
# Segments of a statement

The text of a statement falls into segments: literals, quoted names, comments,
double colons, placeholders for parameters, and single other characters.  A
segment is cut off at the start of the text, and what is left is shorter, so
that the text has one decomposition from left to right.  The segments in order
make up the text again.
-/

namespace SqlAnywhere

/-- What a segment of a statement is. -/
inductive SegmentKind where
  /-- A text between single quotes. -/
  | literal
  /-- A name between double quotes. -/
  | quotedName
  /-- A name between brackets. -/
  | bracketedName
  /-- Two dashes and the rest of their line. -/
  | lineComment
  /-- A comment between a slash with a star and a star with a slash. -/
  | blockComment
  | doubleColon
  /-- A colon and the name of a parameter. -/
  | placeholder
  /-- One character that belongs to no other segment. -/
  | plain
deriving DecidableEq

/-- A stretch of a statement. -/
structure Segment where
  kind : SegmentKind
  text : Text
deriving DecidableEq

namespace Segment

/-- The two parts of a cut text, with characters before the first part. -/
def before (characters : Text) (parts : Text × Text) : Text × Text :=
  (characters ++ parts.1, parts.2)

/--
Cuts a text after the mark that closes a quotation; two marks in a row stand
for one and do not close it.
-/
def cutQuotation (mark : Char) : Text → Text × Text
  | [] => ([], [])
  | [character] => ([character], [])
  | character :: next :: rest =>
      if character = mark then
        if next = mark then
          before [character, next] (cutQuotation mark rest)
        else
          ([character], next :: rest)
      else
        before [character] (cutQuotation mark (next :: rest))

/-- Cuts a text after the first bracket that closes a name. -/
def cutBrackets : Text → Text × Text
  | [] => ([], [])
  | character :: rest =>
      if character = ']' then
        ([character], rest)
      else
        before [character] (cutBrackets rest)

/-- Cuts a text after the first star that a slash follows. -/
def cutComment : Text → Text × Text
  | [] => ([], [])
  | [character] => ([character], [])
  | character :: next :: rest =>
      if character = '*' ∧ next = '/' then
        ([character, next], rest)
      else
        before [character] (cutComment (next :: rest))

/-- Cuts a text before the first character that lacks a property. -/
def cutWhile (keeps : Char → Bool) (text : Text) : Text × Text :=
  (text.takeWhile keeps, text.dropWhile keeps)

/-- Characters that the name of a parameter may begin with. -/
def isParameterStart (character : Char) : Bool :=
  character.isAlpha || character = '_'

/-- Characters that the name of a parameter may hold. -/
def isParameterPart (character : Char) : Bool :=
  character.isAlphanum || character = '_'

/-- The first part of a cut text as a segment of a kind, and the rest. -/
def ofCut (kind : SegmentKind) (parts : Text × Text) : Segment × Text :=
  (⟨kind, parts.1⟩, parts.2)

/--
The first segment of a text that begins with a character, and the rest of the
text.
-/
def cut (first : Char) (rest : Text) : Segment × Text :=
  match first, rest with
  | '\'', rest => ofCut .literal (before ['\''] (cutQuotation '\'' rest))
  | '"', rest => ofCut .quotedName (before ['"'] (cutQuotation '"' rest))
  | '[', rest => ofCut .bracketedName (before ['['] (cutBrackets rest))
  | '-', '-' :: rest =>
      ofCut .lineComment (before ['-', '-'] (cutWhile (· ≠ '\n') rest))
  | '/', '*' :: rest =>
      ofCut .blockComment (before ['/', '*'] (cutComment rest))
  | ':', ':' :: rest => ofCut .doubleColon ([':', ':'], rest)
  | ':', letter :: rest =>
      if isParameterStart letter then
        ofCut .placeholder (before [':', letter] (cutWhile isParameterPart rest))
      else
        ofCut .plain ([':'], letter :: rest)
  | first, rest => ofCut .plain ([first], rest)

/-- The name of the parameter that a placeholder stands for. -/
def parameter? (segment : Segment) : Option Text :=
  match segment.kind with
  | .placeholder => some (segment.text.drop 1)
  | _ => none

@[simp]
theorem before_append (characters : Text) (parts : Text × Text) :
    (before characters parts).1 ++ (before characters parts).2 =
      characters ++ (parts.1 ++ parts.2) := by
  simp [before]

@[simp]
theorem ofCut_append (kind : SegmentKind) (parts : Text × Text) :
    (ofCut kind parts).1.text ++ (ofCut kind parts).2 =
      parts.1 ++ parts.2 := rfl

@[simp]
theorem cutQuotation_append (mark : Char) (text : Text) :
    (cutQuotation mark text).1 ++ (cutQuotation mark text).2 = text := by
  fun_induction cutQuotation mark text <;> simp_all

@[simp]
theorem cutBrackets_append (text : Text) :
    (cutBrackets text).1 ++ (cutBrackets text).2 = text := by
  fun_induction cutBrackets text <;> simp_all

@[simp]
theorem cutComment_append (text : Text) :
    (cutComment text).1 ++ (cutComment text).2 = text := by
  fun_induction cutComment text <;> simp_all

@[simp]
theorem cutWhile_append (keeps : Char → Bool) (text : Text) :
    (cutWhile keeps text).1 ++ (cutWhile keeps text).2 = text :=
  List.takeWhile_append_dropWhile

/-- A segment and the rest after it make up the text. -/
theorem cut_append (first : Char) (rest : Text) :
    (cut first rest).1.text ++ (cut first rest).2 = first :: rest := by
  fun_cases cut first rest <;> simp

/-- A segment holds at least one character. -/
theorem cut_text_ne_nil (first : Char) (rest : Text) :
    (cut first rest).1.text ≠ [] := by
  fun_cases cut first rest <;> simp [ofCut, before]

/-- The rest after a segment is shorter than the text. -/
theorem length_cut_lt (first : Char) (rest : Text) :
    (cut first rest).2.length < (first :: rest).length := by
  have whole := congrArg List.length (cut_append first rest)
  have present := List.length_pos_iff.2 (cut_text_ne_nil first rest)
  rw [List.length_append] at whole
  omega

/-- The segments of a statement. -/
def scan : Text → List Segment
  | [] => []
  | first :: rest => (cut first rest).1 :: scan (cut first rest).2
termination_by text => text.length
decreasing_by exact length_cut_lt first rest

@[simp]
theorem scan_nil : scan [] = [] := by
  rw [scan]

theorem scan_cons (first : Char) (rest : Text) :
    scan (first :: rest) =
      (cut first rest).1 :: scan (cut first rest).2 := by
  rw [scan]

/-- The segments of a statement in order make up its text. -/
theorem flatMap_text_scan (statement : Text) :
    (scan statement).flatMap Segment.text = statement := by
  fun_induction scan statement with
  | case1 => rfl
  | case2 first rest same =>
      rw [List.flatMap_cons, same]
      exact cut_append first rest

end Segment

end SqlAnywhere
