import SqlAnywhere.Proofs.Piece

/-!
# Text put into a statement

Text without marks is put into a statement: after a character that is no mark
either, or at the end.  Its characters become pieces of their own there, and
no other piece changes, whatever literal, name or comment the place lies in.
-/

namespace SqlAnywhere

open Piece

/-- A list that a value is part of is cut before the value or after it. -/
theorem append_eq_append_cons {α : Type} {first second before after : List α}
    {value : α} (whole : first ++ second = before ++ value :: after) :
    (∃ part, first = before ++ value :: part ∧ after = part ++ second) ∨
      ∃ part, before = first ++ part ∧ second = part ++ value :: after := by
  rcases List.append_eq_append_iff.1 whole with
    ⟨part, rfl, rfl⟩ | ⟨part, rfl, rest⟩
  · exact .inr ⟨part, rfl, rfl⟩
  · cases part with
    | nil => exact .inr ⟨[], by simp, rest.symm⟩
    | cons head part =>
        cases rest
        exact .inl ⟨part, rfl, rfl⟩

/-- A value that is not in the first part of a list cuts the second one. -/
theorem exists_cut_of_notMem {α : Type} {first second before after : List α}
    {value : α} (whole : first ++ second = before ++ value :: after)
    (outside : value ∉ first) :
    ∃ part, before = first ++ part ∧ second = part ++ value :: after := by
  rcases append_eq_append_cons whole with ⟨part, rfl, -⟩ | later
  · simp at outside
  · exact later

namespace Segment

/-- The characters that open or close a segment. -/
def marks : List Char :=
  [']', '*', '\n'] ++ openers

/-- Whether a text holds no mark. -/
def Calm (text : Text) : Prop :=
  ∀ character ∈ text, character ∉ marks

instance (text : Text) : Decidable (Calm text) :=
  List.decidableBAll (fun character => character ∉ marks) text

theorem Calm.append {front back : Text} (calm : Calm front)
    (calm' : Calm back) : Calm (front ++ back) :=
  List.forall_mem_append.2 ⟨calm, calm'⟩

theorem Calm.notMem {text : Text} (calm : Calm text) {mark : Char}
    (isMark : mark ∈ marks) : mark ∉ text :=
  fun member => calm mark member isMark

theorem Calm.notMem_openers {text : Text} (calm : Calm text) :
    ∀ character ∈ text, character ∉ openers :=
  fun character member opener =>
    calm character member (List.mem_append_right _ opener)

/-! ## What stands between marks -/

/-- A character other than the mark cuts a quotation in two. -/
theorem quotation_holds_append_iff {kind : SegmentKind} {mark character : Char}
    (other : character ≠ mark) (front back : Text) :
    (quotation kind mark).Holds (front ++ character :: back) ↔
      (quotation kind mark).Holds front ∧ (quotation kind mark).Holds back := by
  constructor
  · rintro ⟨content, whole⟩
    induction content generalizing front with
    | nil => simp at whole
    | cons first content ih =>
        rw [Text.doubled_cons] at whole
        rcases append_eq_append_cons whole.symm with
          ⟨part, cut, rfl⟩ | ⟨part, rfl, cut⟩
        · by_cases marked : first = mark
          · have member : character ∈ [mark, mark] := by
              rw [if_pos marked] at cut
              rw [cut]
              simp
            exact absurd (by simpa using member) other
          · rw [if_neg marked] at cut
            rcases List.cons_eq_append_iff.1 cut with
              ⟨rfl, same⟩ | ⟨others, rfl, same⟩
            · cases same
              exact ⟨⟨[], rfl⟩, ⟨content, rfl⟩⟩
            · simp at same
        · obtain ⟨⟨earlier, rfl⟩, later⟩ := ih part cut.symm
          refine ⟨⟨first :: earlier, ?_⟩, later⟩
          rw [Text.doubled_cons]
  · rintro ⟨⟨earlier, rfl⟩, ⟨later, rfl⟩⟩
    refine ⟨earlier ++ character :: later, ?_⟩
    simp [Text.doubled, other]

/--
A character that is neither star nor slash cuts the body of a comment in two.
-/
theorem comment_holds_append_iff {character : Char}
    (noStar : character ≠ '*') (noSlash : character ≠ '/')
    (front back : Text) :
    comment.Holds (front ++ character :: back) ↔
      comment.Holds front ∧ comment.Holds back := by
  induction front with
  | nil =>
      have empty : comment.Holds [] := by simp [comment]
      rw [List.nil_append, comment_holds_cons_iff]
      simp [noStar, empty]
  | cons first front ih =>
      rw [List.cons_append, comment_holds_cons_iff, ih, comment_holds_cons_iff,
        and_assoc]
      have same : (front ++ character :: back).head? = some '/' ↔
          front.head? = some '/' := by
        cases front with
        | nil => simp [noSlash]
        | cons next front => rfl
      rw [same]

/-- A character that is no mark cuts what stands between marks in two. -/
theorem Enclosure.holds_append_iff {enclosure : Enclosure}
    (known : enclosure ∈ enclosures) {character : Char}
    (calm : character ∉ marks) (front back : Text) :
    enclosure.Holds (front ++ character :: back) ↔
      enclosure.Holds front ∧ enclosure.Holds back := by
  have other {mark : Char} (isMark : mark ∈ marks) : character ≠ mark := by
    rintro rfl
    exact calm isMark
  rcases mem_enclosures_iff.1 known with rfl | rfl | rfl | rfl
  · exact quotation_holds_append_iff (other (by decide)) front back
  · exact quotation_holds_append_iff (other (by decide)) front back
  · have closing : character ≠ ']' := other (by decide)
    simp [brackets, closing.symm]
  · exact comment_holds_append_iff (other (by decide)) (other (by decide))
      front back

theorem Enclosure.holds_nil {enclosure : Enclosure}
    (known : enclosure ∈ enclosures) : enclosure.Holds [] := by
  rcases mem_enclosures_iff.1 known with rfl | rfl | rfl | rfl
  · exact ⟨[], rfl⟩
  · exact ⟨[], rfl⟩
  · exact List.not_mem_nil
  · simp [comment]

/-- Text without marks can stand before what stands between marks. -/
theorem Enclosure.holds_append_left {enclosure : Enclosure}
    (known : enclosure ∈ enclosures) {text : Text} (calm : Calm text)
    {body : Text} (holds : enclosure.Holds body) :
    enclosure.Holds (text ++ body) := by
  induction text with
  | nil => exact holds
  | cons character text ih =>
      obtain ⟨first, others⟩ := List.forall_mem_cons.1 calm
      exact (holds_append_iff known first [] (text ++ body)).2
        ⟨holds_nil known, ih others⟩

/-- Text without marks can stand after what stands between marks. -/
theorem Enclosure.holds_append_right {enclosure : Enclosure}
    (known : enclosure ∈ enclosures) {text : Text} (calm : Calm text)
    {body : Text} (holds : enclosure.Holds body) :
    enclosure.Holds (body ++ text) := by
  cases text with
  | nil => rwa [List.append_nil]
  | cons character text =>
      obtain ⟨first, others⟩ := List.forall_mem_cons.1 calm
      have last := holds_append_left known others (holds_nil known)
      rw [List.append_nil] at last
      exact (holds_append_iff known first body text).2 ⟨holds, last⟩

theorem Enclosure.kind_ne_placeholder {enclosure : Enclosure}
    (known : enclosure ∈ enclosures) : enclosure.kind ≠ .placeholder := by
  rcases mem_enclosures_iff.1 known with rfl | rfl | rfl | rfl <;> exact SegmentKind.noConfusion

/-- Only marks open and close a segment. -/
theorem Enclosure.mem_marks {enclosure : Enclosure}
    (known : enclosure ∈ enclosures) :
    ∀ character ∈ enclosure.opening ++ enclosure.closing, character ∈ marks := by
  rcases mem_enclosures_iff.1 known with rfl | rfl | rfl | rfl <;>
    exact Text.forall_mem_of_all (by decide)

/--
Text without marks that is put into an enclosure lengthens what stands
between its marks.
-/
theorem Enclosure.exists_grown {enclosure : Enclosure}
    (known : enclosure ∈ enclosures)
    {body ending front back clause : Text} {character : Char}
    (edges : ∀ mark ∈ ending, mark ∈ enclosure.closing)
    (split : enclosure.opening ++ body ++ ending = front ++ character :: back)
    (calm : Calm (character :: clause)) (holds : enclosure.Holds body) :
    ∃ grown, front ++ character :: (clause ++ back) =
      enclosure.opening ++ grown ++ ending ∧ enclosure.Holds grown := by
  obtain ⟨noMark, others⟩ := List.forall_mem_cons.1 calm
  have outside : character ∉ enclosure.opening ++ enclosure.closing :=
    fun member => noMark (mem_marks known character member)
  rw [List.mem_append, not_or] at outside
  rw [List.append_assoc] at split
  obtain ⟨earlier, rfl, inside⟩ := exists_cut_of_notMem split outside.1
  rcases append_eq_append_cons inside with ⟨later, rfl, rfl⟩ | ⟨_, -, rfl⟩
  · have parts := (holds_append_iff known noMark earlier later).1 holds
    refine ⟨earlier ++ character :: (clause ++ later), by simp, ?_⟩
    exact (holds_append_iff known noMark _ _).2
      ⟨parts.1, holds_append_left known others parts.2⟩
  · exact absurd (edges character (by simp)) outside.2

/--
Text without marks that is put into a copied segment lengthens it, unless the
segment is a character of its own.
-/
theorem Begins.grown
    {segment : Segment} {front back rest clause : Text} {character : Char}
    (begins : Begins segment rest) (copied : segment.kind ≠ .placeholder)
    (split : segment.text = front ++ character :: back)
    (calm : Calm (character :: clause)) :
    (segment = single character ∧ front = [] ∧ back = []) ∨
      Begins ⟨segment.kind, front ++ character :: (clause ++ back)⟩ rest := by
  have outside (mark : Char) (isMark : mark ∈ marks) :
      character ∉ [mark, mark] := by
    intro member
    have same : character = mark := by simpa using member
    exact calm character List.mem_cons_self (same ▸ isMark)
  cases begins with
  | closed known holds permits =>
      obtain ⟨grown, whole, holds⟩ :=
        Enclosure.exists_grown known (fun _ => id) split calm holds
      rw [whole]
      exact .inr (.closed known holds permits)
  | @unclosed enclosure body known holds =>
      have edges : ∀ mark ∈ ([] : Text), mark ∈ enclosure.closing := nofun
      have whole : enclosure.opening ++ body ++ [] =
          front ++ character :: back := by
        rw [List.append_nil]
        exact split
      obtain ⟨grown, whole, holds⟩ :=
        Enclosure.exists_grown known edges whole calm holds
      rw [List.append_nil] at whole
      rw [whole]
      exact .inr (.unclosed known holds)
  | @lineComment words _ oneLine ends =>
      have parts : ['-', '-'] ++ words = front ++ character :: back := split
      obtain ⟨earlier, rfl, rfl⟩ :=
        exists_cut_of_notMem parts (outside '-' (by decide))
      have grown : '\n' ∉ earlier ++ character :: (clause ++ back) := by
        have noNewline : '\n' ∉ character :: clause := calm.notMem (by decide)
        simp only [List.mem_append, List.mem_cons, not_or] at oneLine noNewline ⊢
        exact ⟨oneLine.1, oneLine.2.1, noNewline.2, oneLine.2.2⟩
      exact .inr (.lineComment grown ends)
  | doubleColon =>
      have parts : [':', ':'] ++ [] = front ++ character :: back := split
      obtain ⟨_, -, empty⟩ :=
        exists_cut_of_notMem parts (outside ':' (by decide))
      simp at empty
  | placeholder => exact absurd rfl copied
  | plain =>
      rcases List.cons_eq_append_iff.1 split with
        ⟨rfl, same⟩ | ⟨_, rfl, same⟩
      · cases same
        exact .inl ⟨rfl, rfl, rfl⟩
      · simp at same

/--
Whether a text goes on with no segment that stands before it: it begins with
no mark and with no character that a name may hold.
-/
def Detached (text : Text) : Prop :=
  ∀ next ∈ text.head?, next ∉ marks ∧ ¬ isParameterPart next

/--
The last segment of a statement also ends before a detached text, unless it
is a comment that ends with its line, or is never closed.
-/
theorem Begins.ends_or_open {segment : Segment} {text : Text}
    (begins : Begins segment []) (detached : Detached text) :
    Begins segment text ∨
      (∃ words, '\n' ∉ words ∧ segment = ⟨.lineComment, '-' :: '-' :: words⟩) ∨
      ∃ enclosure ∈ enclosures, ∃ body, enclosure.Holds body ∧
        segment = ⟨enclosure.kind, enclosure.opening ++ body⟩ := by
  have other {mark : Char} (isMark : mark ∈ marks) : text.head? ≠ some mark :=
    fun first => (detached mark first).1 isMark
  cases begins with
  | closed known holds =>
      refine .inl (.closed known holds ?_)
      rcases mem_enclosures_iff.1 known with rfl | rfl | rfl | rfl
      · exact other (by decide)
      · exact other (by decide)
      · trivial
      · trivial
  | @unclosed enclosure body known holds =>
      exact .inr (.inr ⟨enclosure, known, body, holds, rfl⟩)
  | @lineComment words _ oneLine => exact .inr (.inl ⟨words, oneLine, rfl⟩)
  | doubleColon => exact .inl .doubleColon
  | placeholder start parts =>
      exact .inl (.placeholder start parts fun next first =>
        (detached next first).2)
  | plain single =>
      refine .inl (.plain ?_)
      rintro (mark | ⟨-, dash⟩ | ⟨-, star⟩ | ⟨-, next, member, colon | letter⟩)
      · exact single (.inl mark)
      · exact other (by decide) dash
      · exact other (by decide) star
      · rw [colon] at member
        exact other (by decide) member
      · exact (detached next member).2
          (isParameterPart_of_isParameterStart letter)

/-- A segment is copied unless it is a placeholder. -/
theorem parameter?_eq_none_iff (segment : Segment) :
    segment.parameter? = none ↔ segment.kind ≠ .placeholder := by
  rw [parameter?]
  cases segment.kind <;> simp

end Segment

open Segment

namespace Statement

/-! ## Text inside a segment -/

/--
Characters without marks at the start of a statement are pieces of their own.
-/
theorem pieces_append_of_calm {text : Text} (calm : Calm text) (rest : Text) :
    pieces (text ++ rest) = text.map kept ++ pieces rest := by
  rw [pieces, scan_append_of_forall_notMem calm.notMem_openers,
    List.flatMap_append, List.flatMap_map]
  congr 1
  induction text with
  | nil => rfl
  | cons character text ih =>
      exact congrArg (kept character :: ·)
        (ih (List.forall_mem_cons.1 calm).2)

theorem pieces_of_calm {text : Text} (calm : Calm text) :
    pieces text = text.map kept := by
  have parts := pieces_append_of_calm calm []
  rwa [List.append_nil, pieces_nil, List.append_nil] at parts

/-- The characters of a copied segment are pieces of their own. -/
theorem pieces_append_of_copied {kind : SegmentKind} {text rest : Text}
    (begins : Begins ⟨kind, text⟩ rest) (copied : kind ≠ .placeholder) :
    pieces (text ++ rest) = text.map kept ++ pieces rest := by
  have plain := (parameter?_eq_none_iff ⟨kind, text⟩).2 copied
  rw [← pieces_of_parameter?_eq_none plain]
  exact pieces_append_of_begins begins

/--
Text without marks lengthens a copied segment, or consists of single
characters after it.
-/
theorem pieces_insert_of_begins
    {segment : Segment} {front back rest clause : Text} {character : Char}
    (begins : Begins segment rest) (copied : segment.kind ≠ .placeholder)
    (split : segment.text = front ++ character :: back)
    (calm : Calm (character :: clause)) :
    pieces (front ++ character :: (clause ++ back) ++ rest) =
      (front ++ character :: (clause ++ back)).map kept ++ pieces rest := by
  rcases begins.grown copied split calm with ⟨-, rfl, rfl⟩ | grown
  · rw [List.nil_append, List.append_nil]
    exact pieces_append_of_calm calm rest
  · exact pieces_append_of_copied grown copied

/-- A copied character belongs to a segment that is copied. -/
theorem text_of_mem_pieces {segment : Segment} {front back : List Piece}
    {character : Char} (here : segment.pieces = front ++ kept character :: back) :
    segment.kind ≠ .placeholder ∧ ∃ first last,
      segment.text = first ++ character :: last ∧
        front = first.map kept ∧ back = last.map kept := by
  have copied : segment.kind ≠ .placeholder := by
    rw [← parameter?_eq_none_iff]
    cases placeholder : segment.parameter? with
    | none => rfl
    | some name =>
        rw [Segment.pieces, placeholder] at here
        rcases List.cons_eq_append_iff.1 here with
          ⟨-, same⟩ | ⟨_, -, same⟩
        · cases same
        · simp at same
  rw [pieces_of_parameter?_eq_none
    ((parameter?_eq_none_iff segment).2 copied)] at here
  obtain ⟨first, last, text, rfl, after⟩ := List.map_eq_append_iff.1 here
  obtain ⟨_, second, rfl, same, rfl⟩ := List.map_eq_cons_iff.1 after
  cases same
  exact ⟨copied, first, second, text, rfl, rfl⟩

/--
Text without marks after a character without one consists of pieces of its
own, and leaves all other pieces as they are.
-/
theorem pieces_insert {statement : Text} {front back : List Piece}
    {character : Char} {clause : Text}
    (split : pieces statement = front ++ kept character :: back)
    (calm : Calm (character :: clause)) :
    pieces (sources front ++ character :: (clause ++ sources back)) =
      front ++ kept character :: (clause.map kept ++ back) := by
  induction statement using induction_on_segments generalizing front with
  | nil => simp at split
  | segment segment rest begins ih =>
      rw [pieces_append_of_begins begins] at split
      -- The place lies in the first segment, or behind it, where the next
      -- character stays.
      rcases append_eq_append_cons split with
        ⟨later, here, rfl⟩ | ⟨earlier, rfl, there⟩
      · obtain ⟨copied, first, second, text, rfl, rfl⟩ :=
          text_of_mem_pieces here
        have grown := pieces_insert_of_begins begins copied text calm
        simpa using grown
      · have next : rest = sources earlier ++ character :: sources back := by
          rw [← sources_pieces rest, there]
          simp [source]
        have same : rest.head? =
            (sources earlier ++ character :: (clause ++ sources back)).head? := by
          rw [next, List.head?_append, List.head?_append]
          rfl
        rw [sources_append, begins.sources_pieces, List.append_assoc,
          pieces_append_of_begins (begins.congr_head? same), ih there,
          List.append_assoc]

/-! ## Text after a statement -/

/--
Text without marks after the last segment consists of pieces of its own,
whether the segment is closed or takes it in.
-/
theorem pieces_append_of_begins_nil {segment : Segment} {text : Text}
    (begins : Begins segment []) (calm : Calm text)
    (stops : ∀ next ∈ text.head?, ¬ isParameterPart next) :
    pieces (segment.text ++ text) = segment.pieces ++ text.map kept := by
  have taken {kind : SegmentKind} {words : Text} (copied : kind ≠ .placeholder)
      (begins : Begins ⟨kind, words ++ text⟩ []) :
      pieces (words ++ text) =
        Segment.pieces ⟨kind, words⟩ ++ text.map kept := by
    have parts := pieces_append_of_copied begins copied
    rw [pieces_of_parameter?_eq_none
      ((parameter?_eq_none_iff ⟨kind, words⟩).2 copied), ← List.map_append]
    rwa [List.append_nil, pieces_nil, List.append_nil] at parts
  have detached : Detached text := fun next first =>
    ⟨calm next (List.mem_of_mem_head? first), stops next first⟩
  rcases begins.ends_or_open detached with
    ended | ⟨words, oneLine, rfl⟩ | ⟨enclosure, known, body, holds, rfl⟩
  · rw [pieces_append_of_begins ended, pieces_of_calm calm]
  · have noNewline : '\n' ∉ words ++ text := by
      rw [List.mem_append, not_or]
      exact ⟨oneLine, calm.notMem (by decide)⟩
    have longer : Begins ⟨.lineComment, '-' :: '-' :: words ++ text⟩ [] :=
      .lineComment noNewline nofun
    exact taken SegmentKind.noConfusion longer
  · apply taken (Enclosure.kind_ne_placeholder known)
    rw [List.append_assoc]
    exact .unclosed known (Enclosure.holds_append_right known calm holds)

/--
Text without marks at the end of a statement consists of pieces of its own,
unless it goes on with the name of a parameter.
-/
theorem pieces_append {text : Text} (calm : Calm text)
    (stops : ∀ next ∈ text.head?, ¬ isParameterPart next) (statement : Text) :
    pieces (statement ++ text) = pieces statement ++ text.map kept := by
  induction statement using induction_on_segments with
  | nil =>
      rw [List.nil_append, pieces_nil]
      exact pieces_of_calm calm
  | segment segment rest begins ih =>
      cases rest with
      | nil =>
          rw [List.append_nil, pieces_append_of_begins_nil begins calm stops]
          have parts := pieces_append_of_begins begins
          rw [List.append_nil, pieces_nil, List.append_nil] at parts
          rw [parts]
      | cons next rest =>
          rw [pieces_append_of_begins begins, List.append_assoc,
            List.append_assoc, ← ih]
          exact pieces_append_of_begins (begins.congr_head? rfl)

/-- Text without marks around a statement consists of pieces of its own. -/
theorem pieces_between {front back : Text} (calm : Calm front)
    (calm' : Calm back) (stops : ∀ next ∈ back.head?, ¬ isParameterPart next)
    (statement : Text) :
    pieces (front ++ statement ++ back) =
      front.map kept ++ pieces statement ++ back.map kept := by
  rw [pieces_append calm' stops, pieces_append_of_calm calm]

end Statement

end SqlAnywhere
