import SqlAnywhere.Proofs.LimitedBinding

/-!
# Text after a statement

An order and the end of a question for rows are appended to a statement as
they are.  After a statement in which everything that is opened is closed they
begin a segment of their own, unless the statement ends with a comment that
ends with its line: that comment goes on with them.  The clause of a row
window, wherever it is put, makes no difference to this.
-/

namespace SqlAnywhere

open Piece Segment

/-! ## Statements in which everything is closed -/

/--
Whether a segment that begins with an opening mark ends with the closing one.
-/
def Segment.IsClosed (segment : Segment) : Prop :=
  ∀ enclosure ∈ enclosures, segment.kind = enclosure.kind →
    ∃ body, enclosure.Holds body ∧
      segment.text = enclosure.opening ++ body ++ enclosure.closing

namespace Statement

/-- Whether every literal, quoted name and comment between marks is closed. -/
def IsClosed (statement : Text) : Prop :=
  ∀ segment ∈ scan statement, segment.IsClosed

/-- Whether a statement ends with a comment that ends with its line. -/
def EndsInLineComment (statement : Text) : Prop :=
  (scan statement).getLast?.map Segment.kind = some .lineComment

instance (statement : Text) : Decidable (EndsInLineComment statement) :=
  inferInstanceAs (Decidable (_ = _))

/-- The text of segments. -/
def textOf (segments : List Segment) : Text :=
  segments.flatMap Segment.text

@[simp]
theorem textOf_append (segments others : List Segment) :
    textOf (segments ++ others) = textOf segments ++ textOf others :=
  List.flatMap_append

@[simp]
theorem textOf_cons (segment : Segment) (segments : List Segment) :
    textOf (segment :: segments) = segment.text ++ textOf segments := rfl

@[simp]
theorem textOf_nil : textOf [] = [] := rfl

@[simp]
theorem textOf_scan (statement : Text) : textOf (scan statement) = statement :=
  flatMap_text_scan statement

@[simp]
theorem textOf_map_single (text : Text) : textOf (text.map single) = text := by
  induction text with
  | nil => rfl
  | cons character text ih => exact congrArg (character :: ·) ih

/-! ## Where a text begins -/

/-- Whether a text after another one begins with a segment of its own. -/
def BeginsOutside (front back : Text) : Prop :=
  ∃ before after,
    scan (front ++ back) = before ++ after ∧ textOf before = front

/--
Whether a text after another one begins in a comment that ends with its line.
-/
def BeginsInLineComment (front back : Text) : Prop :=
  ∃ before words line after,
    scan (front ++ back) = before ++ ⟨.lineComment, words ++ line⟩ :: after ∧
      textOf before ++ words = front ∧ words ≠ [] ∧ line ≠ []

/-- No text begins both with a segment of its own and in a comment. -/
theorem BeginsOutside.not_beginsInLineComment {front back : Text}
    (outside : BeginsOutside front back) :
    ¬ BeginsInLineComment front back := by
  rintro ⟨before', words, line, after', segments', rfl, some, more⟩
  obtain ⟨before, after, segments, front⟩ := outside
  rw [segments] at segments'
  rcases append_eq_append_cons segments' with
    ⟨part, rfl, -⟩ | ⟨part, rfl, -⟩
  · have lengths := congrArg List.length front
    have long := List.length_pos_iff.2 more
    simp only [textOf_append, textOf_cons, List.length_append] at lengths
    omega
  · have lengths := congrArg List.length front
    have long := List.length_pos_iff.2 some
    simp only [textOf_append, List.length_append] at lengths
    omega

/-! ## Detached text after a statement -/

section Appended

variable {statement text : Text}

/--
What is closed as the last segment of a statement also ends before a detached
text.
-/
theorem begins_of_isClosed {segment : Segment}
    (begins : Begins segment []) (closed : segment.IsClosed)
    (noLine : segment.kind ≠ .lineComment) (detached : Detached text) :
    Begins segment text := by
  rcases begins.ends_or_open detached with
    ended | ⟨words, -, rfl⟩ | ⟨enclosure, known, body, -, rfl⟩
  · exact ended
  · exact absurd rfl noLine
  · obtain ⟨inner, holds, whole⟩ := closed enclosure known rfl
    simp only at whole
    rw [whole]
    refine .closed known holds ?_
    have other {mark : Char} (isMark : mark ∈ marks) :
        text.head? ≠ some mark := fun first => (detached mark first).1 isMark
    rcases mem_enclosures_iff.1 known with rfl | rfl | rfl | rfl
    · exact other (by decide)
    · exact other (by decide)
    · trivial
    · trivial

theorem IsClosed.of_begins {segment : Segment} {rest : Text}
    (closed : IsClosed (segment.text ++ rest)) (begins : Begins segment rest) :
    segment.IsClosed ∧ IsClosed rest := by
  rw [IsClosed, scan_append_of_begins begins] at closed
  exact List.forall_mem_cons.1 closed

/-- How a statement ends is told by its last segment. -/
theorem endsInLineComment_of_begins_nil {segment : Segment}
    (begins : Begins segment []) :
    EndsInLineComment segment.text ↔ segment.kind = .lineComment := by
  have segments := scan_append_of_begins begins
  rw [List.append_nil, scan_nil] at segments
  rw [EndsInLineComment, segments]
  simp

/-- How a statement ends is told by what is left after a segment. -/
theorem endsInLineComment_of_begins {segment : Segment} {rest : Text}
    (begins : Begins segment rest) (more : rest ≠ []) :
    EndsInLineComment (segment.text ++ rest) ↔ EndsInLineComment rest := by
  have some : scan rest ≠ [] := by
    intro none
    have empty := textOf_scan rest
    rw [none] at empty
    exact more empty.symm
  rw [EndsInLineComment, EndsInLineComment, scan_append_of_begins begins,
    List.getLast?_cons_of_ne_nil some]

/-- Kinds of segments between marks differ in name. -/
theorem enclosure_eq_of_kind_eq {enclosure other : Enclosure}
    (known : enclosure ∈ enclosures) (known' : other ∈ enclosures)
    (same : enclosure.kind = other.kind) : enclosure = other := by
  rcases mem_enclosures_iff.1 known with rfl | rfl | rfl | rfl <;>
    rcases mem_enclosures_iff.1 known' with rfl | rfl | rfl | rfl <;>
      first | rfl | cases same

/-- A statement goes on being closed with a segment that is. -/
theorem isClosed_append_of_closed {enclosure : Enclosure} {body rest : Text}
    (known : enclosure ∈ enclosures) (holds : enclosure.Holds body)
    (permits : enclosure.Permits rest) (closed : IsClosed rest) :
    IsClosed (enclosure.opening ++ body ++ enclosure.closing ++ rest) := by
  have begins := Begins.closed known holds permits
  have segments := scan_append_of_begins begins
  rw [IsClosed, segments, List.forall_mem_cons]
  refine ⟨fun other known' same => ?_, closed⟩
  rw [← enclosure_eq_of_kind_eq known known' same]
  exact ⟨body, holds, rfl⟩

/-- A statement without segments between marks is closed. -/
theorem isClosed_of_kinds
    (other : ∀ segment ∈ scan statement, ∀ enclosure ∈ enclosures,
      segment.kind ≠ enclosure.kind) :
    IsClosed statement :=
  fun segment member enclosure known same =>
    absurd same (other segment member enclosure known)

/-- A segment before others goes on as it is if a text is appended to them. -/
theorem begins_append {segment : Segment} {rest : Text}
    (begins : Begins segment rest) (more : rest ≠ []) (text : Text) :
    Begins segment (rest ++ text) := by
  apply begins.congr_head?
  rw [List.head?_append_of_ne_nil _ more]

/--
The segments of a detached text follow those of a statement in which
everything is closed.
-/
theorem scan_append_of_isClosed
    (closed : IsClosed statement) (noLine : ¬ EndsInLineComment statement)
    (detached : Detached text) :
    scan (statement ++ text) = scan statement ++ scan text := by
  induction statement using induction_on_segments with
  | nil => simp
  | segment segment rest begins ih =>
      obtain ⟨first, others⟩ := closed.of_begins begins
      rw [scan_append_of_begins begins, List.append_assoc, List.cons_append]
      by_cases more : rest = []
      · subst more
        rw [List.append_nil, endsInLineComment_of_begins_nil begins] at noLine
        have ended := begins_of_isClosed begins first noLine detached
        rw [List.nil_append, scan_append_of_begins ended, scan_nil,
          List.nil_append]
      · rw [endsInLineComment_of_begins begins more] at noLine
        rw [scan_append_of_begins (begins_append begins more text),
          ih others noLine]

/--
A comment that ends with its line is two dashes and the rest of the line.
-/
theorem exists_words_of_lineComment {segment : Segment} {rest : Text}
    (begins : Begins segment rest) (line : segment.kind = .lineComment) :
    ∃ words, '\n' ∉ words ∧ segment = ⟨.lineComment, '-' :: '-' :: words⟩ := by
  cases begins with
  | @lineComment words _ oneLine => exact ⟨words, oneLine, rfl⟩
  | closed known | unclosed known =>
      rcases mem_enclosures_iff.1 known with rfl | rfl | rfl | rfl <;>
        cases line
  | doubleColon | placeholder | plain => cases line

/-- A line of text goes on with the comment at the end of a statement. -/
theorem scan_append_of_endsInLineComment
    (ends : EndsInLineComment statement) (text : Text) :
    ∃ before words,
      textOf before ++ words = statement ∧ words ≠ [] ∧
      scan statement = before ++ [⟨.lineComment, words⟩] ∧
      scan (statement ++ text) =
        before ++ ⟨.lineComment, words ++ (cutWhile (· ≠ '\n') text).1⟩ ::
          scan (cutWhile (· ≠ '\n') text).2 := by
  induction statement using induction_on_segments with
  | nil => simp [EndsInLineComment] at ends
  | segment segment rest begins ih =>
      by_cases more : rest = []
      · subst more
        rw [List.append_nil, endsInLineComment_of_begins_nil begins] at ends
        obtain ⟨words, oneLine, rfl⟩ := exists_words_of_lineComment begins ends
        obtain ⟨kept, stops⟩ := cutWhile_cases (· ≠ '\n') text
        have longer : Begins
            ⟨.lineComment,
              '-' :: '-' :: (words ++ (cutWhile (· ≠ '\n') text).1)⟩
            (cutWhile (· ≠ '\n') text).2 := by
          refine .lineComment ?_ fun next first => by simpa using stops next first
          rw [List.mem_append, not_or]
          exact ⟨oneLine, fun member => by simpa using kept '\n' member⟩
        have segments := scan_append_of_begins longer
        simp only [List.cons_append, List.append_assoc, cutWhile_append]
          at segments
        refine ⟨[], '-' :: '-' :: words, by simp, List.cons_ne_nil _ _, ?_, ?_⟩
        · rw [scan_append_of_begins begins, scan_nil]
          rfl
        · rw [List.append_nil]
          exact segments
      · rw [endsInLineComment_of_begins begins more] at ends
        obtain ⟨before, words, whole, some, last, segments⟩ := ih ends
        refine ⟨segment :: before, words, ?_, some, ?_, ?_⟩
        · rw [textOf_cons, List.append_assoc, whole]
        · rw [scan_append_of_begins begins, last]
          rfl
        · rw [List.append_assoc,
            scan_append_of_begins (begins_append begins more text), segments]
          rfl

end Appended

/-! ## A clause among segments -/

/--
Segments with a clause put among them: into one of them, which becomes longer
or, unless it is a comment that ends with its line, several ones.
-/
inductive Inserts (clause : Text) : List Segment → List Segment → Prop where
  | mk (before after : List Segment) {segment : Segment}
      {grown : List Segment} {early late : Text}
      (split : segment.text = early ++ late)
      (longer : textOf grown = early ++ clause ++ late)
      (line : segment.kind = .lineComment →
        grown = [⟨.lineComment, early ++ clause ++ late⟩]) :
      Inserts clause (before ++ segment :: after) (before ++ grown ++ after)

/-- A text, perhaps with a clause put into it. -/
def Widens (clause text other : Text) : Prop :=
  other = text ∨
    ∃ early late, text = early ++ late ∧ other = early ++ clause ++ late

theorem Widens.append {clause text other : Text}
    (widens : Widens clause text other) (front back : Text) :
    Widens clause (front ++ text ++ back) (front ++ other ++ back) := by
  rcases widens with rfl | ⟨early, late, rfl, rfl⟩
  · exact .inl rfl
  · exact .inr ⟨front ++ early, late ++ back, by simp, by simp⟩

theorem Widens.ne_nil {clause text other : Text}
    (widens : Widens clause text other) (some : text ≠ []) : other ≠ [] := by
  rcases widens with rfl | ⟨early, late, rfl, rfl⟩
  · exact some
  · simp only [ne_eq, List.append_eq_nil_iff, not_and] at some ⊢
    exact fun none => some none.1

/-- What a clause is put into becomes longer by it. -/
theorem Inserts.widens {clause : Text} {segments grown : List Segment}
    (inserts : Inserts clause segments grown) :
    Widens clause (textOf segments) (textOf grown) := by
  cases inserts with
  | @mk before after segment grown early late split longer =>
      refine .inr ⟨textOf before ++ early, late ++ textOf after, ?_, ?_⟩
      · rw [textOf_append, textOf_cons, split]
        simp
      · rw [textOf_append, textOf_append, longer]
        simp

/-- A clause is put into one of two parts. -/
theorem Inserts.of_append {clause : Text} {first second grown : List Segment}
    (inserts : Inserts clause (first ++ second) grown) :
    (∃ first', Inserts clause first first' ∧ grown = first' ++ second) ∨
      ∃ second', Inserts clause second second' ∧ grown = first ++ second' := by
  generalize whole : first ++ second = segments at inserts
  obtain ⟨before, after, split, longer, line⟩ := inserts
  rcases append_eq_append_cons whole with ⟨part, rfl, rfl⟩ | ⟨part, rfl, rfl⟩
  · exact .inl ⟨_, .mk before part split longer line, by simp⟩
  · exact .inr ⟨_, .mk part after split longer line, by simp⟩

/-- A clause is put among segments that another one stands before. -/
theorem Inserts.cons {clause : Text} {segments grown : List Segment}
    (inserts : Inserts clause segments grown) (segment : Segment) :
    Inserts clause (segment :: segments) (segment :: grown) := by
  obtain ⟨before, after, split, longer, line⟩ := inserts
  exact .mk (segment :: before) after split longer line

/--
A clause that is put into a comment which ends with its line leaves it one.
-/
theorem Inserts.of_lineComment {clause words line : Text}
    {grown : List Segment}
    (inserts : Inserts clause [⟨.lineComment, words ++ line⟩] grown) :
    ∃ words' line',
      grown = [⟨.lineComment, words' ++ line'⟩] ∧
        (Widens clause words words' ∧ line' = line ∨
          words' = words ∧ Widens clause line line') := by
  generalize whole : [(⟨.lineComment, words ++ line⟩ : Segment)] = segments
    at inserts
  cases inserts with
  | @mk before after segment grown early late split longer commented =>
      obtain ⟨rfl, same⟩ | ⟨_, -, empty⟩ := List.cons_eq_append_iff.1 whole
      · obtain ⟨rfl, rfl⟩ := List.cons.inj same
        rw [commented rfl]
        rcases List.append_eq_append_iff.1 split with
          ⟨part, rfl, rfl⟩ | ⟨part, rfl, rfl⟩
        · refine ⟨words, part ++ clause ++ late, by simp, .inr ⟨rfl, ?_⟩⟩
          exact .inr ⟨part, late, rfl, rfl⟩
        · refine ⟨early ++ clause ++ part, line, by simp, .inl ⟨?_, rfl⟩⟩
          exact .inr ⟨early, part, rfl, rfl⟩
      · simp at empty

/--
Text without marks after a character without one is put into the segment of
that character.
-/
theorem inserts_of_pieces {statement : Text} {front back : List Piece}
    {character : Char} {clause : Text}
    (split : pieces statement = front ++ kept character :: back)
    (calm : Calm (character :: clause)) :
    Inserts clause (scan statement)
      (scan (sources front ++ character :: (clause ++ sources back))) := by
  induction statement using induction_on_segments generalizing front with
  | nil => simp at split
  | segment segment rest begins ih =>
      rw [scan_append_of_begins begins]
      rw [pieces_append_of_begins begins] at split
      -- As for the pieces, the place lies in the first segment or behind it.
      rcases append_eq_append_cons split with
        ⟨later, here, rfl⟩ | ⟨earlier, rfl, there⟩
      · obtain ⟨copied, first, second, text, rfl, rfl⟩ :=
          text_of_mem_pieces here
        have whole : sources (first.map kept) ++ character ::
            (clause ++ sources (second.map kept ++ pieces rest)) =
            first ++ character :: (clause ++ second) ++ rest := by
          simp
        rw [whole]
        rcases begins.grown copied text calm with ⟨rfl, rfl, rfl⟩ | grown
        · have parts := scan_append_of_forall_notMem calm.notMem_openers rest
          have longer : textOf ((character :: clause).map single) =
              [character] ++ clause ++ [] := by
            rw [textOf_map_single, List.append_nil]
            rfl
          simp only [List.nil_append, List.append_nil]
          rw [parts]
          exact .mk [] (scan rest) (List.append_nil _).symm longer nofun
        · rw [scan_append_of_begins grown]
          have split' : segment.text = first ++ [character] ++ second := by
            simp [text]
          have longer :
              textOf [⟨segment.kind, first ++ character :: (clause ++ second)⟩] =
                first ++ [character] ++ clause ++ second := by
            simp
          refine .mk [] (scan rest) split' longer fun line => ?_
          rw [line]
          simp
      · have next : rest = sources earlier ++ character :: sources back := by
          rw [← sources_pieces rest, there]
          simp [source]
        have same : rest.head? =
            (sources earlier ++ character :: (clause ++ sources back)).head? := by
          rw [next, List.head?_append, List.head?_append]
          rfl
        rw [sources_append, begins.sources_pieces, List.append_assoc,
          scan_append_of_begins (begins.congr_head? same)]
        exact (ih there).cons segment

/--
The clause of a row window is put among the segments of a statement, if it is
put there.
-/
theorem limited_inserts (window : RowWindow) (statement : Text) :
    limited window statement = statement ∨
      Inserts (window.clause?.getD []) (scan statement)
        (scan (limited window statement)) := by
  rcases rest?_images_pieces statement with
    ⟨missing, -⟩ | ⟨front, character, back, whole, noMark, found, -⟩
  · exact .inl (limited_of_rest?_eq_none missing window)
  · have calm : Calm (character :: window.clause?.getD []) :=
      List.forall_mem_cons.2 ⟨noMark, calm_clause window⟩
    have written : statement = sources front ++ [character] ++ sources back := by
      rw [← sources_pieces statement, whole]
      simp [source]
    have inserted := limited_of_rest?_eq_some (written ▸ found) window
    rw [← written] at inserted
    split at inserted
    · exact .inl inserted
    · right
      rw [inserted, List.append_assoc, List.append_assoc]
      exact inserts_of_pieces whole calm

/-! ## Orders and questions for rows -/

/--
A page of a statement: the statement and the order after it, with the clause
of the window in one of them.
-/
structure PageParts (window : RowWindow) (statement order front back : Text) :
    Prop where
  page : limited window (statement ++ order) = front ++ back
  parts :
    Widens (window.clause?.getD []) statement front ∧ back = order ∨
      front = statement ∧ Widens (window.clause?.getD []) order back

section Pages

variable {statement order : Text}

/--
An order that begins with a segment of its own does so in a page of the
statement.
-/
theorem exists_pageParts_of_outside
    (outside : BeginsOutside statement order) (window : RowWindow) :
    ∃ front back, PageParts window statement order front back ∧
      BeginsOutside front back := by
  obtain ⟨before, after, segments, rfl⟩ := outside
  obtain rfl : order = textOf after := by
    have texts := congrArg textOf segments
    rw [textOf_scan, textOf_append] at texts
    exact List.append_cancel_left texts
  rcases limited_inserts window (textOf before ++ textOf after) with
    same | inserts
  · exact ⟨_, _, ⟨same, .inl ⟨.inl rfl, rfl⟩⟩, before, after, segments, rfl⟩
  · rw [segments] at inserts
    have page := textOf_scan (limited window (textOf before ++ textOf after))
    rcases inserts.of_append with ⟨grown, put, whole⟩ | ⟨grown, put, whole⟩
    · rw [whole, textOf_append] at page
      refine ⟨_, _, ⟨page.symm, .inl ⟨put.widens, rfl⟩⟩, grown, after, ?_, rfl⟩
      rw [page, whole]
    · rw [whole, textOf_append] at page
      refine ⟨_, _, ⟨page.symm, .inr ⟨rfl, put.widens⟩⟩, before, grown, ?_, rfl⟩
      rw [page, whole]

/--
An order that begins in a comment at the end of a line does so in a page of
the statement.
-/
theorem exists_pageParts_of_inLineComment
    (inside : BeginsInLineComment statement order) (window : RowWindow) :
    ∃ front back, PageParts window statement order front back ∧
      BeginsInLineComment front back := by
  obtain ⟨before, words, line, after, segments, rfl, some, more⟩ := inside
  obtain rfl : order = line ++ textOf after := by
    have texts := congrArg textOf segments
    rw [textOf_scan, textOf_append, textOf_cons, List.append_assoc,
      List.append_assoc] at texts
    exact List.append_cancel_left (List.append_cancel_left texts)
  rcases limited_inserts window (textOf before ++ words ++ (line ++ textOf after))
    with same | inserts
  · exact ⟨_, _, ⟨same, .inl ⟨.inl rfl, rfl⟩⟩,
      before, words, line, after, segments, rfl, some, more⟩
  · obtain ⟨page, isPage⟩ :
        ∃ page, limited window
          (textOf before ++ words ++ (line ++ textOf after)) = page :=
      ⟨_, rfl⟩
    have segmented := textOf_scan page
    rw [isPage, segments, List.append_cons, List.append_assoc] at inserts
    rcases inserts.of_append with ⟨grown, put, whole⟩ | ⟨grown, put, whole⟩
    · have parted : page =
          textOf grown ++ words ++ (line ++ textOf after) := by
        rw [← segmented, whole]
        simp
      refine ⟨_, _, ⟨isPage.trans parted, .inl ⟨?_, rfl⟩⟩,
        grown, words, line, after, ?_, rfl, some, more⟩
      · simpa using put.widens.append [] words
      · rw [← parted, whole]
        rfl
    · rcases put.of_append with ⟨inner, put', rfl⟩ | ⟨inner, put', rfl⟩
      · obtain ⟨words', line', rfl, parts⟩ := put'.of_lineComment
        have parted : page =
            textOf before ++ words' ++ (line' ++ textOf after) := by
          rw [← segmented, whole]
          simp
        refine ⟨_, _, ⟨isPage.trans parted, ?_⟩,
          before, words', line', after, ?_, rfl, ?_, ?_⟩
        · rcases parts with ⟨wide, rfl⟩ | ⟨rfl, wide⟩
          · exact .inl ⟨by simpa using wide.append (textOf before) [], rfl⟩
          · exact .inr ⟨rfl, by simpa using wide.append [] (textOf after)⟩
        · rw [← parted, whole]
          rfl
        · rcases parts with ⟨wide, -⟩ | ⟨rfl, -⟩
          · exact wide.ne_nil some
          · exact some
        · rcases parts with ⟨-, rfl⟩ | ⟨-, wide⟩
          · exact more
          · exact wide.ne_nil more
      · have parted : page =
            textOf before ++ words ++ (line ++ textOf inner) := by
          rw [← segmented, whole]
          simp
        refine ⟨_, _, ⟨isPage.trans parted, .inr ⟨rfl, ?_⟩⟩,
          before, words, line, inner, ?_, rfl, some, more⟩
        · simpa using put'.widens.append line []
        · rw [← parted, whole]
          rfl

end Pages

/-- An order is appended to a statement, which is then limited. -/
theorem page_eq {items : List OrderItem} (some : items ≠ [])
    (window : RowWindow) (statement : Text) :
    page items window statement =
      limited window (statement ++ ' ' :: OrderItem.clause items) := by
  rw [page, ordered]
  split
  · next empty => simp [OrderItem.clause, some] at empty
  · rfl

/--
Where a detached text begins after a statement in which everything is closed.
-/
theorem begins_after_isClosed {statement text : Text}
    (closed : IsClosed statement) (detached : Detached text)
    (some : text ≠ []) :
    (¬ EndsInLineComment statement → BeginsOutside statement text) ∧
      (EndsInLineComment statement → BeginsInLineComment statement text) := by
  constructor
  · intro noLine
    exact ⟨scan statement, scan text,
      scan_append_of_isClosed closed noLine detached, textOf_scan statement⟩
  · intro ends
    obtain ⟨before, words, whole, some', -, segments⟩ :=
      scan_append_of_endsInLineComment ends text
    refine ⟨before, words, _, _, segments, whole, some', ?_⟩
    obtain ⟨first, others, rfl⟩ := List.exists_cons_of_ne_nil some
    have other : first ≠ '\n' := by
      rintro rfl
      exact (detached '\n' rfl).1 (by decide)
    simp [cutWhile, other]

/--
Text that opens no segment is closed and, before a statement, does not change
how that ends.
-/
theorem append_of_forall_notMem {word : Text}
    (inert : ∀ character ∈ word, character ∉ openers) (statement : Text) :
    (IsClosed (word ++ statement) ↔ IsClosed statement) ∧
      (EndsInLineComment (word ++ statement) ↔ EndsInLineComment statement) := by
  have segments := scan_append_of_forall_notMem inert statement
  constructor
  · rw [IsClosed, segments, List.forall_mem_append, IsClosed, and_iff_right]
    intro segment member enclosure known same
    obtain ⟨character, -, rfl⟩ := List.mem_map.1 member
    rcases mem_enclosures_iff.1 known with rfl | rfl | rfl | rfl <;> cases same
  · rw [EndsInLineComment, segments, List.getLast?_append, EndsInLineComment]
    cases (scan statement).getLast? with
    | none =>
        rw [Option.none_or, List.getLast?_map]
        cases word.getLast? <;> simp [single]
    | some segment => rfl

/-! ## Placeholders in an order -/

/-- Whether a text can stand after the colon of a placeholder. -/
def IsParameterName (name : Text) : Prop :=
  ∃ letter letters, name = letter :: letters ∧ isParameterStart letter ∧
    ∀ part ∈ letters, isParameterPart part

/-- The names of the placeholders of a statement. -/
def placeholders (statement : Text) : List Text :=
  (scan statement).filterMap parameter?

/-- A statement is bound to the values for its placeholders. -/
theorem exists_bind_iff {statement : Text} {parameters : List Parameter}
    {values : List Text} :
    (∃ text, BoundStatement.bind statement parameters = .ok ⟨text, values⟩) ↔
      List.Forall₂
        (fun name value =>
          BoundStatement.valueFor parameters name = .ok value)
        (placeholders statement) values := by
  rw [← Traversal.mapM_eq_ok_iff, BoundStatement.bind,
    BoundStatement.ofSegments_eq, ← placeholders]
  cases (placeholders statement).mapM (BoundStatement.valueFor parameters) <;>
    simp [Except.map]

/--
An order by a placeholder holds that placeholder, and no line ends in it.
-/
theorem placeholders_of_order {name : Text} (named : IsParameterName name) :
    let order := ' ' :: OrderItem.clause [.expression (':' :: name)]
    placeholders order = [name] ∧ '\n' ∉ order := by
  obtain ⟨letter, letters, rfl, start, parts⟩ := named
  intro order
  have whole : order =
      " ORDER BY ".toList ++ (':' :: letter :: letters) := by
    simp [order, OrderItem.clause, OrderItem.toText]
  have begins : Begins ⟨.placeholder, ':' :: letter :: letters⟩ [] :=
    .placeholder start parts nofun
  constructor
  · have segments := scan_append_of_begins begins
    simp only [List.append_nil, scan_nil] at segments
    have inert : ∀ character ∈ " ORDER BY ".toList, character ∉ openers :=
      Text.forall_mem_of_all (by decide)
    rw [placeholders, whole, scan_append_of_forall_notMem inert, segments]
    rfl
  · have all : ∀ part ∈ letter :: letters, isParameterPart part :=
      List.forall_mem_cons.2 ⟨isParameterPart_of_isParameterStart start, parts⟩
    rw [whole, List.mem_append, List.mem_cons, not_or, not_or]
    refine ⟨by decide, by decide, fun member => ?_⟩
    exact absurd (all '\n' member) (by decide)

/--
The placeholders of a statement that an order by a placeholder is appended
to.
-/
theorem placeholders_append_order {statement name : Text}
    (closed : IsClosed statement) (named : IsParameterName name) :
    placeholders
        (statement ++ ' ' :: OrderItem.clause [.expression (':' :: name)]) =
      placeholders statement ++
        if EndsInLineComment statement then [] else [name] := by
  obtain ⟨ordered, oneLine⟩ := placeholders_of_order named
  by_cases ends : EndsInLineComment statement
  · obtain ⟨before, words, -, -, last, segments⟩ :=
      scan_append_of_endsInLineComment ends
        (' ' :: OrderItem.clause [.expression (':' :: name)])
    have kept : ∀ character ∈ ' ' :: OrderItem.clause [.expression (':' :: name)],
        decide (character ≠ '\n') := by
      intro character member
      rw [decide_eq_true_eq]
      rintro rfl
      exact oneLine member
    have line := @cutWhile_of_all _ _ [] kept nofun
    rw [List.append_nil] at line
    rw [placeholders, segments, line, scan_nil, placeholders, last, if_pos ends,
      List.filterMap_append, List.filterMap_append, List.append_nil]
    rfl
  · have detached : Detached
        (' ' :: OrderItem.clause [.expression (':' :: name)]) := by
      intro next first
      cases first
      decide
    rw [placeholders, scan_append_of_isClosed closed ends detached,
      List.filterMap_append, ← placeholders, ← placeholders, ordered,
      if_neg ends]

/-! ## What is appended takes effect -/

/--
After a statement in which everything that is opened is closed, an order and
the end of a question for rows begin with a segment of their own, unless the
statement ends with a comment that ends with its line.  They begin in that
comment then.  An order by a placeholder accordingly adds the value of the
placeholder to those of the statement, or none.
-/
theorem appended_outside_line_comment
    (statement : Text) (closed : IsClosed statement) (window : RowWindow) :
    (∀ items : List OrderItem, items ≠ [] →
      ∃ front back,
        page items window statement = front ++ back ∧
        (Widens (window.clause?.getD []) statement front ∧
            back = ' ' :: OrderItem.clause items ∨
          front = statement ∧
            Widens (window.clause?.getD []) (' ' :: OrderItem.clause items)
              back) ∧
        (BeginsOutside front back ↔ ¬ EndsInLineComment statement) ∧
        (BeginsInLineComment front back ↔ EndsInLineComment statement)) ∧
    (let front := "SELECT IF EXISTS(".toList ++ statement
      let back := ") THEN 1 ELSE 0 ENDIF".toList
      existence statement = front ++ back ∧
        (BeginsOutside front back ↔ ¬ EndsInLineComment statement) ∧
        (BeginsInLineComment front back ↔ EndsInLineComment statement)) ∧
    ∀ (name value : Text) (parameters : List Parameter)
      (bound : BoundStatement),
      IsParameterName name →
      Parameter.Gives parameters name value →
      BoundStatement.bind statement parameters = .ok bound →
        ∃ text,
          BoundStatement.bind
              (page [.expression (':' :: name)] window statement) parameters =
            .ok ⟨text, bound.values ++
              if EndsInLineComment statement then [] else [value]⟩ := by
  have exactly {front back : Text}
      (outside : ¬ EndsInLineComment statement → BeginsOutside front back)
      (inside : EndsInLineComment statement → BeginsInLineComment front back) :
      (BeginsOutside front back ↔ ¬ EndsInLineComment statement) ∧
        (BeginsInLineComment front back ↔ EndsInLineComment statement) := by
    refine ⟨⟨fun apart ends => ?_, outside⟩, ⟨fun within => ?_, inside⟩⟩
    · exact apart.not_beginsInLineComment (inside ends)
    · by_contra noLine
      exact (outside noLine).not_beginsInLineComment within
  refine ⟨fun items some => ?_, ?_, ?_⟩
  · have detached : Detached (' ' :: OrderItem.clause items) := by
      intro next first
      cases first
      decide
    obtain ⟨outside, inside⟩ :=
      begins_after_isClosed closed detached (List.cons_ne_nil _ _)
    rw [page_eq some]
    by_cases ends : EndsInLineComment statement
    · obtain ⟨front, back, ⟨whole, parts⟩, within⟩ :=
        exists_pageParts_of_inLineComment (inside ends) window
      exact ⟨front, back, whole, parts,
        exactly (fun noLine => absurd ends noLine) fun _ => within⟩
    · obtain ⟨front, back, ⟨whole, parts⟩, apart⟩ :=
        exists_pageParts_of_outside (outside ends) window
      exact ⟨front, back, whole, parts,
        exactly (fun _ => apart) fun ends' => absurd ends' ends⟩
  · have inert : ∀ character ∈ "SELECT IF EXISTS(".toList,
        character ∉ openers :=
      Text.forall_mem_of_all (by decide)
    obtain ⟨closed', ends⟩ := append_of_forall_notMem inert statement
    have detached : Detached ") THEN 1 ELSE 0 ENDIF".toList := by
      intro next first
      cases first
      decide
    obtain ⟨outside, inside⟩ :=
      begins_after_isClosed (closed'.2 closed) detached (by decide)
    rw [ends] at outside inside
    exact ⟨rfl, exactly outside inside⟩
  · intro name value parameters bound named given binding
    have values := exists_bind_iff.1 ⟨bound.text, binding⟩
    have noColon : name.head? ≠ some ':' := by
      obtain ⟨letter, letters, rfl, start, -⟩ := named
      rintro ⟨⟩
      exact absurd start (by decide)
    have looked : BoundStatement.valueFor parameters name = .ok value :=
      (BoundStatement.valueFor_eq_ok_iff noColon parameters value).2 given
    have added := placeholders_append_order closed named
    have all : List.Forall₂
        (fun name value =>
          BoundStatement.valueFor parameters name = .ok value)
        (placeholders (statement ++
          ' ' :: OrderItem.clause [.expression (':' :: name)]))
        (bound.values ++
          if EndsInLineComment statement then [] else [value]) := by
      rw [added]
      refine List.rel_append values ?_
      split
      · exact .nil
      · exact .cons looked .nil
    obtain ⟨text, ordered⟩ := exists_bind_iff.2 all
    rw [page_eq (List.cons_ne_nil _ _), (binding_commutes window _ _).1, ordered]
    exact ⟨_, rfl⟩

/--
A query with a literal and a comment in its first line, neither of which
takes in the order after its last one.
-/
theorem order_after_last_line :
    let statement :=
      "SELECT 'it''s /* :all' -- of [them\nFROM t WHERE b > :low".toList
    let window : RowWindow := ⟨some 5, none⟩
    let items : List OrderItem := [.expression ":key".toList]
    let parameters : List Parameter :=
      [("key".toList, "a".toList), (":low".toList, "7".toList)]
    IsClosed statement ∧
      (∃ front back, page items window statement = front ++ back ∧
        BeginsOutside front back) ∧
      BeginsOutside ("SELECT IF EXISTS(".toList ++ statement)
        ") THEN 1 ELSE 0 ENDIF".toList ∧
      ∃ text, BoundStatement.bind (page items window statement) parameters =
        .ok ⟨text, ["7".toList, "a".toList]⟩ := by
  intro statement window items parameters
  have closed : IsClosed statement := by
    have inert : ∀ character ∈ "SELECT ".toList, character ∉ openers :=
      Text.forall_mem_of_all (by decide)
    have others : IsClosed " -- of [them\nFROM t WHERE b > :low".toList :=
      isClosed_of_kinds (by decide +kernel)
    have known : quotation .literal '\'' ∈ enclosures := by simp [enclosures]
    have permits : " -- of [them\nFROM t WHERE b > :low".toList.head? ≠
        some '\'' := by
      decide
    have literal := isClosed_append_of_closed known
      ⟨"it's /* :all".toList, rfl⟩ permits others
    exact (append_of_forall_notMem inert _).1.2 literal
  have noLine : ¬ EndsInLineComment statement := by decide +kernel
  obtain ⟨paged, ⟨-, asked, -⟩, binds⟩ :=
    appended_outside_line_comment statement closed window
  obtain ⟨front, back, whole, -, outside, -⟩ :=
    paged items (List.cons_ne_nil _ _)
  have low : placeholders statement = ["low".toList] := by decide +kernel
  have values : List.Forall₂
      (fun name value =>
        BoundStatement.valueFor parameters name = .ok value)
      (placeholders statement) ["7".toList] := by
    rw [low]
    exact .cons rfl .nil
  obtain ⟨text, bound⟩ := exists_bind_iff.2 values
  obtain ⟨text', bound'⟩ := binds "key".toList "a".toList parameters _
    ⟨'k', "ey".toList, rfl, by decide, Text.forall_mem_of_all (by decide)⟩
    ⟨[], _, _, rfl, ⟨[], nofun, rfl⟩, rfl, nofun⟩ bound
  rw [if_neg noLine] at bound'
  exact ⟨closed, ⟨front, back, whole, outside.2 noLine⟩, asked.2 noLine,
    text', bound'⟩

/--
A query whose last line ends with a comment: the order is taken in by it, and
the value for the placeholder of the order is not bound.
-/
theorem order_in_line_comment :
    let statement := "SELECT a FROM t -- all rows".toList
    let items : List OrderItem := [.expression ":key".toList]
    IsClosed statement ∧
      page items ⟨none, none⟩ statement =
        statement ++ " ORDER BY :key".toList ∧
      ¬ BeginsOutside statement " ORDER BY :key".toList ∧
      ∃ text, BoundStatement.bind (page items ⟨none, none⟩ statement)
          [("key".toList, "a".toList)] = .ok ⟨text, []⟩ := by
  intro statement items
  have closed : IsClosed statement := isClosed_of_kinds (by decide +kernel)
  have ends : EndsInLineComment statement := by decide +kernel
  have detached : Detached " ORDER BY :key".toList := by
    intro next first
    cases first
    decide
  have inside := (begins_after_isClosed closed detached (by decide)).2 ends
  refine ⟨closed, rfl, fun outside => ?_, ?_⟩
  · exact outside.not_beginsInLineComment inside
  · have none : placeholders (page items ⟨none, none⟩ statement) = [] := by
      decide +kernel
    rw [exists_bind_iff, none]
    exact .nil

end Statement

end SqlAnywhere
