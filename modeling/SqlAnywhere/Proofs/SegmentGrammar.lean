import SqlAnywhere.Sql.Segment

/-!
# The grammar of segments

Which segments a statement can begin with is said here without a scanner: by
the marks that open and close a segment, by what stands between them, and by
the character that follows.  A statement decomposes into segments if each of
them can begin what is left of the statement there.

Scanning from left to right finds such a decomposition, and there is no other
one.
-/

namespace SqlAnywhere

namespace Segment

/-! ## The grammar -/

/-- A kind of segments between an opening and a closing mark. -/
structure Enclosure where
  kind : SegmentKind
  opening : Text
  closing : Text
  /-- What can stand between the marks. -/
  Holds : Text → Prop
  /-- What can follow the closing mark. -/
  Permits : Text → Prop

/--
Texts between two marks of one character, which is written twice where it
stands for itself.
-/
def quotation (kind : SegmentKind) (mark : Char) : Enclosure where
  kind := kind
  opening := [mark]
  closing := [mark]
  Holds body := ∃ content, body = Text.doubled mark content
  Permits rest := rest.head? ≠ some mark

/-- Names between brackets, in which no closing bracket can stand. -/
def brackets : Enclosure where
  kind := .bracketedName
  opening := ['[']
  closing := [']']
  Holds body := ']' ∉ body
  Permits _ := True

/-- Comments between marks of two characters, up to the first closing mark. -/
def comment : Enclosure where
  kind := .blockComment
  opening := ['/', '*']
  closing := ['*', '/']
  Holds body := ¬ ['*', '/'] <:+: body
  Permits _ := True

/-- The kinds of segments between marks. -/
def enclosures : List Enclosure :=
  [quotation .literal '\'', quotation .quotedName '"', brackets, comment]

theorem mem_enclosures_iff {enclosure : Enclosure} :
    enclosure ∈ enclosures ↔
      enclosure = quotation .literal '\'' ∨
        enclosure = quotation .quotedName '"' ∨
        enclosure = brackets ∨ enclosure = comment := by
  simp [enclosures]

/--
Whether a character begins a segment of several characters before a text.
-/
def Opens (first : Char) (rest : Text) : Prop :=
  first ∈ ['\'', '"', '['] ∨
    first = '-' ∧ rest.head? = some '-' ∨
    first = '/' ∧ rest.head? = some '*' ∨
    first = ':' ∧ ∃ next ∈ rest.head?, next = ':' ∨ isParameterStart next

/--
The segments that a statement can begin with, each before the rest of the
statement.
-/
inductive Begins : Segment → Text → Prop where
  | closed {enclosure : Enclosure} {body rest : Text}
      (known : enclosure ∈ enclosures)
      (holds : enclosure.Holds body) (permits : enclosure.Permits rest) :
      Begins
        ⟨enclosure.kind, enclosure.opening ++ body ++ enclosure.closing⟩ rest
  /-- A segment that is never closed reaches the end of the statement. -/
  | unclosed {enclosure : Enclosure} {body : Text}
      (known : enclosure ∈ enclosures) (holds : enclosure.Holds body) :
      Begins ⟨enclosure.kind, enclosure.opening ++ body⟩ []
  | lineComment {words rest : Text}
      (oneLine : '\n' ∉ words) (ends : ∀ next ∈ rest.head?, next = '\n') :
      Begins ⟨.lineComment, '-' :: '-' :: words⟩ rest
  | doubleColon {rest : Text} : Begins ⟨.doubleColon, [':', ':']⟩ rest
  | placeholder {letter : Char} {letters rest : Text}
      (start : isParameterStart letter)
      (parts : ∀ part ∈ letters, isParameterPart part)
      (ends : ∀ next ∈ rest.head?, ¬ isParameterPart next) :
      Begins ⟨.placeholder, ':' :: letter :: letters⟩ rest
  | plain {first : Char} {rest : Text} (single : ¬ Opens first rest) :
      Begins ⟨.plain, [first]⟩ rest

/-- The decompositions of a statement into segments, from left to right. -/
inductive Decomposes : Text → List Segment → Prop where
  | nil : Decomposes [] []
  | cons {segment : Segment} {rest : Text} {segments : List Segment}
      (begins : Begins segment rest) (others : Decomposes rest segments) :
      Decomposes (segment.text ++ rest) (segment :: segments)

theorem isParameterPart_of_isParameterStart {letter : Char}
    (start : isParameterStart letter) : isParameterPart letter := by
  rw [isParameterPart, Char.isAlphanum]
  rw [isParameterStart] at start
  grind

/-! ## Cuts of enclosed segments -/

/--
A cut after the opening mark of an enclosure, as it should be: after the
first closing mark, or at the end of the text without one.
-/
def Enclosure.Ends (enclosure : Enclosure) (parts : Text × Text) : Prop :=
  (∃ body, parts.1 = body ++ enclosure.closing ∧
    enclosure.Holds body ∧ enclosure.Permits parts.2) ∨
  (enclosure.Holds parts.1 ∧ parts.2 = [])

/-- A cut that ends an enclosure gives a segment that begins the text. -/
theorem Enclosure.Ends.begins {enclosure : Enclosure} {parts : Text × Text}
    (ends : enclosure.Ends parts) (known : enclosure ∈ enclosures) :
    Begins ⟨enclosure.kind, enclosure.opening ++ parts.1⟩ parts.2 := by
  rcases ends with ⟨body, cut, holds, permits⟩ | ⟨holds, finished⟩
  · rw [cut, ← List.append_assoc]
    exact .closed known holds permits
  · rw [finished]
    exact .unclosed known holds

theorem ends_cutQuotation (kind : SegmentKind) (mark : Char) (text : Text) :
    (quotation kind mark).Ends (cutQuotation mark text) := by
  fun_induction cutQuotation mark text with
  | case1 => exact .inr ⟨⟨[], rfl⟩, rfl⟩
  | case2 character =>
      by_cases marked : character = mark
      · subst marked
        refine .inl ⟨[], rfl, ⟨[], rfl⟩, ?_⟩
        simp [quotation]
      · refine .inr ⟨⟨[character], ?_⟩, rfl⟩
        simp [Text.doubled, marked]
  | case3 rest ih =>
      rcases ih with ⟨_, cut, ⟨content, rfl⟩, permits⟩ | ⟨⟨content, cut⟩, finished⟩
      · refine .inl ⟨_, ?_, ⟨mark :: content, rfl⟩, permits⟩
        simp [before, cut, Text.doubled_cons]
      · refine .inr ⟨⟨mark :: content, ?_⟩, finished⟩
        simp [before, cut, Text.doubled_cons]
  | case4 next rest other =>
      refine .inl ⟨[], rfl, ⟨[], rfl⟩, ?_⟩
      simpa [quotation] using other
  | case5 character next rest other ih =>
      rcases ih with ⟨_, cut, ⟨content, rfl⟩, permits⟩ | ⟨⟨content, cut⟩, finished⟩
      · refine .inl ⟨_, ?_, ⟨character :: content, rfl⟩, permits⟩
        simp [before, cut, Text.doubled_cons, other]
      · refine .inr ⟨⟨character :: content, ?_⟩, finished⟩
        simp [before, cut, Text.doubled_cons, other]

theorem ends_cutBrackets (text : Text) :
    brackets.Ends (cutBrackets text) := by
  fun_induction cutBrackets text with
  | case1 => exact .inr ⟨List.not_mem_nil, rfl⟩
  | case2 rest => exact .inl ⟨[], rfl, List.not_mem_nil, trivial⟩
  | case3 character rest other ih =>
      rcases ih with ⟨body, cut, holds, permits⟩ | ⟨holds, finished⟩
      · refine .inl ⟨character :: body, ?_, ?_, permits⟩
        · simp [before, cut]
        · exact List.not_mem_cons_of_ne_of_not_mem (Ne.symm other) holds
      · refine .inr ⟨?_, finished⟩
        exact List.not_mem_cons_of_ne_of_not_mem (Ne.symm other) holds

/--
A comment can be longer by a character at its start that is no star before a
slash.
-/
theorem comment_holds_cons_iff (first : Char) (body : Text) :
    comment.Holds (first :: body) ↔
      ¬ (first = '*' ∧ body.head? = some '/') ∧ comment.Holds body := by
  simp only [comment, List.infix_cons_iff, not_or, List.cons_prefix_cons]
  cases body with
  | nil => simp
  | cons next rest => simp [List.cons_prefix_cons, eq_comm]

theorem ends_cutComment (text : Text) :
    comment.Ends (cutComment text) := by
  fun_induction cutComment text with
  | case1 => exact .inr ⟨by simp [comment], rfl⟩
  | case2 character =>
      exact .inr ⟨by simp [comment, List.infix_cons_iff], rfl⟩
  | case3 character next rest closes =>
      obtain ⟨rfl, rfl⟩ := closes
      exact .inl ⟨[], rfl, by simp [comment], trivial⟩
  | case4 character next rest other ih =>
      -- What is cut off after the character begins with the next one.
      have whole := cutComment_append (next :: rest)
      have apart (body more : Text) (cut : body ++ more = next :: rest) :
          ¬ (character = '*' ∧ body.head? = some '/') := by
        rintro ⟨star, slash⟩
        cases body with
        | nil => cases slash
        | cons head body =>
            cases cut
            exact other ⟨star, Option.some.inj slash⟩
      rcases ih with ⟨body, cut, holds, permits⟩ | ⟨holds, finished⟩
      · rw [cut, List.append_assoc] at whole
        refine .inl ⟨character :: body, ?_, ?_, permits⟩
        · simp [before, cut]
        · exact (comment_holds_cons_iff _ _).2 ⟨apart _ _ whole, holds⟩
      · refine .inr ⟨?_, finished⟩
        exact (comment_holds_cons_iff _ _).2 ⟨apart _ _ whole, holds⟩

/-! ## Cutting what the grammar allows -/

/-- A character other than the mark is copied. -/
theorem cutQuotation_cons_of_ne {mark character : Char}
    (other : character ≠ mark) (rest : Text) :
    cutQuotation mark (character :: rest) =
      before [character] (cutQuotation mark rest) := by
  cases rest with
  | nil => rfl
  | cons next rest => rw [cutQuotation, if_neg other]

theorem cutQuotation_closed {mark : Char} (content : Text) {rest : Text}
    (permits : rest.head? ≠ some mark) :
    cutQuotation mark (Text.doubled mark content ++ mark :: rest) =
      (Text.doubled mark content ++ [mark], rest) := by
  induction content with
  | nil =>
      cases rest with
      | nil => rfl
      | cons next rest =>
          have other : next ≠ mark := by simpa using permits
          simp [cutQuotation, other]
  | cons character content ih =>
      rw [Text.doubled_cons]
      by_cases marked : character = mark
      · simp [marked, cutQuotation, ih, before]
      · simp [marked, cutQuotation_cons_of_ne, ih, before]

theorem cutQuotation_unclosed (mark : Char) (content : Text) :
    cutQuotation mark (Text.doubled mark content) =
      (Text.doubled mark content, []) := by
  induction content with
  | nil => rfl
  | cons character content ih =>
      rw [Text.doubled_cons]
      by_cases marked : character = mark
      · simp [marked, cutQuotation, ih, before]
      · simp [marked, cutQuotation_cons_of_ne, ih, before]

theorem cutBrackets_closed {body : Text} (holds : ']' ∉ body) (rest : Text) :
    cutBrackets (body ++ ']' :: rest) = (body ++ [']'], rest) := by
  induction body with
  | nil => simp [cutBrackets]
  | cons character body ih =>
      rw [List.mem_cons, not_or] at holds
      simp [cutBrackets, Ne.symm holds.1, ih holds.2, before]

theorem cutBrackets_unclosed {body : Text} (holds : ']' ∉ body) :
    cutBrackets body = (body, []) := by
  induction body with
  | nil => rfl
  | cons character body ih =>
      rw [List.mem_cons, not_or] at holds
      simp [cutBrackets, Ne.symm holds.1, ih holds.2, before]

/-- A character that is no star before a slash is copied. -/
theorem cutComment_cons_of_not {character : Char} {rest : Text}
    (other : ¬ (character = '*' ∧ rest.head? = some '/')) :
    cutComment (character :: rest) =
      before [character] (cutComment rest) := by
  cases rest with
  | nil => rfl
  | cons next rest =>
      rw [cutComment, if_neg]
      simpa using other

theorem cutComment_closed {body : Text} (holds : comment.Holds body)
    (rest : Text) :
    cutComment (body ++ '*' :: '/' :: rest) = (body ++ ['*', '/'], rest) := by
  induction body with
  | nil => simp [cutComment]
  | cons character body ih =>
      obtain ⟨other, holds⟩ := (comment_holds_cons_iff _ _).1 holds
      rw [List.cons_append, cutComment_cons_of_not, ih holds]
      · rfl
      · cases body with
        | nil => simp
        | cons next body => simpa using other

theorem cutComment_unclosed {body : Text} (holds : comment.Holds body) :
    cutComment body = (body, []) := by
  induction body with
  | nil => rfl
  | cons character body ih =>
      obtain ⟨other, holds⟩ := (comment_holds_cons_iff _ _).1 holds
      rw [cutComment_cons_of_not other, ih holds]
      rfl

/-! ## Cuts of characters with a property -/

/--
What is cut off has the property throughout, and the next character lacks it.
-/
theorem cutWhile_cases (keeps : Char → Bool) (text : Text) :
    (∀ character ∈ (cutWhile keeps text).1, keeps character) ∧
      ∀ next ∈ (cutWhile keeps text).2.head?, ¬ keeps next := by
  constructor
  · exact List.all_eq_true.1 List.all_takeWhile
  · intro next member
    have lacking := List.head?_dropWhile_not keeps text
    rw [show (text.dropWhile keeps).head? = some next from member] at lacking
    simp [lacking]

theorem cutWhile_of_all {keeps : Char → Bool} {kept rest : Text}
    (all : ∀ character ∈ kept, keeps character)
    (ends : ∀ next ∈ rest.head?, ¬ keeps next) :
    cutWhile keeps (kept ++ rest) = (kept, rest) := by
  have stops : rest.takeWhile keeps = [] ∧ rest.dropWhile keeps = rest := by
    cases rest with
    | nil => exact ⟨rfl, rfl⟩
    | cons next rest =>
        have last : ¬ keeps next := ends next rfl
        exact ⟨List.takeWhile_cons_of_neg last, List.dropWhile_cons_of_neg last⟩
  rw [cutWhile, List.takeWhile_append_of_pos all,
    List.dropWhile_append_of_pos all, stops.1, stops.2, List.append_nil]

/-! ## Scanning and decomposing -/

/-- What is cut off a statement is a segment that begins it. -/
theorem begins_cut (first : Char) (rest : Text) :
    Begins (cut first rest).1 (cut first rest).2 := by
  fun_cases cut first rest with
  | case1 =>
      exact (ends_cutQuotation .literal '\'' rest).begins (by simp [enclosures])
  | case2 =>
      exact (ends_cutQuotation .quotedName '"' rest).begins
        (by simp [enclosures])
  | case3 => exact (ends_cutBrackets rest).begins (by simp [enclosures])
  | case4 rest =>
      obtain ⟨kept, ends⟩ := cutWhile_cases (· ≠ '\n') rest
      refine .lineComment ?_ (by simpa [ofCut, before] using ends)
      intro newline
      simpa using kept '\n' newline
  | case5 rest => exact (ends_cutComment rest).begins (by simp [enclosures])
  | case6 rest => exact .doubleColon
  | case7 letter rest other start =>
      obtain ⟨kept, ends⟩ := cutWhile_cases isParameterPart rest
      exact .placeholder start kept ends
  | case8 letter rest single start =>
      refine .plain ?_
      rintro (mark | ⟨dash, -⟩ | ⟨slash, -⟩ | ⟨-, next, member, opens⟩)
      · exact absurd mark (by decide)
      · exact absurd dash (by decide)
      · exact absurd slash (by decide)
      · cases member
        rcases opens with colon | start'
        · exact single colon
        · exact start start'
  | case9 first rest noQuote noDouble noBracket noLine noComment _ noName =>
      refine .plain ?_
      rintro (mark | ⟨dash, next⟩ | ⟨slash, next⟩ | ⟨colon, next, member, -⟩)
      · simp only [List.mem_cons, List.not_mem_nil, or_false] at mark
        rcases mark with quote | double | bracket
        · exact noQuote quote
        · exact noDouble double
        · exact noBracket bracket
      · obtain ⟨others, whole⟩ := List.head?_eq_some_iff.1 next
        exact noLine others dash whole
      · obtain ⟨others, whole⟩ := List.head?_eq_some_iff.1 next
        exact noComment others slash whole
      · obtain ⟨others, whole⟩ := List.head?_eq_some_iff.1 member
        exact noName next others colon whole

/--
How the segments of an enclosure are cut off: after the opening mark by a cut
that stops after the closing one, or at the end.
-/
structure Enclosure.CutBy (enclosure : Enclosure)
    (cutter : Text → Text × Text) : Prop where
  opens : ∀ {first : Char} {others text : Text},
    enclosure.opening ++ text = first :: others →
      cut first others =
        ofCut enclosure.kind (before enclosure.opening (cutter text))
  closed : ∀ {body rest : Text},
    enclosure.Holds body → enclosure.Permits rest →
      cutter (body ++ enclosure.closing ++ rest) =
        (body ++ enclosure.closing, rest)
  unclosed : ∀ {body : Text}, enclosure.Holds body → cutter body = (body, [])

theorem cutBy_quotation {kind : SegmentKind} {mark : Char}
    (opens : ∀ others,
      cut mark others = ofCut kind (before [mark] (cutQuotation mark others))) :
    (quotation kind mark).CutBy (cutQuotation mark) where
  opens whole := by
    cases whole
    exact opens _
  closed := by
    rintro _ rest ⟨content, rfl⟩ permits
    rw [List.append_assoc]
    exact cutQuotation_closed content permits
  unclosed := by
    rintro _ ⟨content, rfl⟩
    exact cutQuotation_unclosed mark content

theorem cutBy_brackets : brackets.CutBy cutBrackets where
  opens whole := by
    cases whole
    rfl
  closed := by
    intro body rest holds _
    rw [List.append_assoc]
    exact cutBrackets_closed holds rest
  unclosed := cutBrackets_unclosed

theorem cutBy_comment : comment.CutBy cutComment where
  opens whole := by
    cases whole
    rfl
  closed := by
    intro body rest holds _
    rw [List.append_assoc]
    exact cutComment_closed holds rest
  unclosed := cutComment_unclosed

/-- Every segment between marks is cut off as its kind asks for. -/
theorem exists_cutBy {enclosure : Enclosure}
    (known : enclosure ∈ enclosures) : ∃ cutter, enclosure.CutBy cutter := by
  rcases mem_enclosures_iff.1 known with rfl | rfl | rfl | rfl
  · exact ⟨_, cutBy_quotation fun _ => rfl⟩
  · exact ⟨_, cutBy_quotation fun _ => rfl⟩
  · exact ⟨_, cutBy_brackets⟩
  · exact ⟨_, cutBy_comment⟩

/--
A character that begins no segment of several characters is cut off alone.
-/
theorem cut_of_not_opens {first : Char} {rest : Text}
    (single : ¬ Opens first rest) :
    cut first rest = (⟨.plain, [first]⟩, rest) := by
  fun_cases cut first rest with
  | case1 | case2 | case3 => exact absurd (.inl (by decide)) single
  | case4 => exact absurd (.inr (.inl ⟨rfl, rfl⟩)) single
  | case5 => exact absurd (.inr (.inr (.inl ⟨rfl, rfl⟩))) single
  | case6 =>
      exact absurd (.inr (.inr (.inr ⟨rfl, ':', rfl, .inl rfl⟩))) single
  | case7 letter _ _ start =>
      exact absurd (.inr (.inr (.inr ⟨rfl, letter, rfl, .inr start⟩))) single
  | case8 | case9 => rfl

/-- A colon before a letter is cut off with the whole name. -/
theorem cut_colon {letter : Char} (start : isParameterStart letter)
    (rest : Text) :
    cut ':' (letter :: rest) =
      ofCut .placeholder
        (before [':', letter] (cutWhile isParameterPart rest)) := by
  have other : letter ≠ ':' := by
    rintro rfl
    exact absurd start (by decide)
  rw [cut, if_pos start]
  exact other

/-- A segment that begins a statement is the one that is cut off. -/
theorem cut_of_begins {segment : Segment} {rest : Text}
    (begins : Begins segment rest) {first : Char} {others : Text}
    (whole : segment.text ++ rest = first :: others) :
    cut first others = (segment, rest) := by
  cases begins with
  | closed known holds permits =>
      obtain ⟨cutter, cuts⟩ := exists_cutBy known
      simp only [List.append_assoc] at whole
      rw [cuts.opens whole, ← List.append_assoc, cuts.closed holds permits]
      simp [ofCut, before]
  | unclosed known holds =>
      obtain ⟨cutter, cuts⟩ := exists_cutBy known
      simp only [List.append_nil] at whole
      rw [cuts.opens whole, cuts.unclosed holds]
      rfl
  | @lineComment words _ oneLine ends =>
      simp only [List.cons_append, List.cons.injEq] at whole
      obtain ⟨rfl, rfl⟩ := whole
      have all : ∀ character ∈ words, decide (character ≠ '\n') := by
        intro character member
        rw [decide_eq_true_eq]
        rintro rfl
        exact oneLine member
      have kept := cutWhile_of_all all
        fun next member => by simpa using ends next member
      change ofCut .lineComment (before ['-', '-'] (cutWhile _ _)) = _
      rw [kept]
      rfl
  | doubleColon =>
      cases whole
      rfl
  | placeholder start parts ends =>
      simp only [List.cons_append, List.cons.injEq] at whole
      obtain ⟨rfl, rfl⟩ := whole
      rw [cut_colon start, cutWhile_of_all parts ends]
      rfl
  | plain single =>
      cases whole
      exact cut_of_not_opens single

/-! ## Decompositions -/

/-- A segment holds at least one character. -/
theorem Begins.text_ne_nil {segment : Segment} {rest : Text}
    (begins : Begins segment rest) : segment.text ≠ [] := by
  cases begins with
  | closed known | unclosed known =>
      rcases mem_enclosures_iff.1 known with rfl | rfl | rfl | rfl <;>
        simp [quotation, brackets, comment]
  | lineComment | doubleColon | placeholder | plain =>
      exact List.cons_ne_nil _ _

theorem decomposes_scan (statement : Text) :
    Decomposes statement (scan statement) := by
  fun_induction scan statement with
  | case1 => exact .nil
  | case2 first rest others =>
      have whole := Decomposes.cons (begins_cut first rest) others
      rwa [cut_append] at whole

/-- The segments of a statement are the only ones that it decomposes into. -/
theorem decomposes_iff (statement : Text) (segments : List Segment) :
    Decomposes statement segments ↔ segments = scan statement := by
  constructor
  · intro decomposes
    induction decomposes with
    | nil => exact scan_nil.symm
    | @cons segment rest segments begins others ih =>
        obtain ⟨first, others', whole⟩ :=
          List.exists_cons_of_ne_nil
            (List.append_ne_nil_of_left_ne_nil begins.text_ne_nil rest)
        rw [whole, scan_cons, cut_of_begins begins whole, ih]
  · rintro rfl
    exact decomposes_scan statement

/--
A statement begins with a segment and goes on with the segments of the rest.
-/
theorem scan_append_of_begins {segment : Segment} {rest : Text}
    (begins : Begins segment rest) :
    scan (segment.text ++ rest) = segment :: scan rest :=
  ((decomposes_iff _ _).1 (.cons begins (decomposes_scan rest))).symm

/--
What holds of the empty statement, and of a statement that begins with a
segment if it holds of the rest, holds of every statement.
-/
@[elab_as_elim]
theorem induction_on_segments {motive : Text → Prop} (statement : Text)
    (nil : motive [])
    (segment : ∀ (segment : Segment) (rest : Text), Begins segment rest →
      motive rest → motive (segment.text ++ rest)) :
    motive statement := by
  have decomposes := decomposes_scan statement
  generalize scan statement = segments at decomposes
  induction decomposes with
  | nil => exact nil
  | cons begins _ ih => exact segment _ _ begins ih

/--
A segment for a parameter is a colon and characters that a name may hold.
-/
theorem Begins.of_parameter?_eq_some {segment : Segment} {rest name : Text}
    (begins : Begins segment rest)
    (placeholder : segment.parameter? = some name) :
    segment.text = ':' :: name ∧ ∀ part ∈ name, isParameterPart part := by
  cases begins with
  | placeholder start parts =>
      cases placeholder
      exact ⟨rfl, List.forall_mem_cons.2
        ⟨isParameterPart_of_isParameterStart start, parts⟩⟩
  | closed known | unclosed known =>
      rcases mem_enclosures_iff.1 known with rfl | rfl | rfl | rfl <;>
        cases placeholder
  | lineComment | doubleColon | plain => cases placeholder

/-- Whether a segment begins a statement shows in the next character. -/
theorem Begins.congr_head? {segment : Segment} {rest other : Text}
    (begins : Begins segment rest) (same : rest.head? = other.head?) :
    Begins segment other := by
  cases begins with
  | closed known holds permits =>
      refine .closed known holds ?_
      rcases mem_enclosures_iff.1 known with rfl | rfl | rfl | rfl
      · exact fun next => permits (same.trans next)
      · exact fun next => permits (same.trans next)
      · trivial
      · trivial
  | unclosed known holds =>
      rw [List.head?_eq_none_iff.1 same.symm]
      exact .unclosed known holds
  | lineComment oneLine ends => exact .lineComment oneLine (same ▸ ends)
  | doubleColon => exact .doubleColon
  | placeholder start parts ends => exact .placeholder start parts (same ▸ ends)
  | plain single =>
      refine .plain ?_
      rwa [Opens, ← same]

/-! ## Characters that open nothing -/

/-- A single character as a segment. -/
def single (character : Char) : Segment :=
  ⟨.plain, [character]⟩

/-- The characters that segments of several characters begin with. -/
def openers : List Char :=
  ['\'', '"', '[', '-', '/', ':']

theorem not_opens_of_notMem {first : Char} (other : first ∉ openers)
    (rest : Text) : ¬ Opens first rest := by
  rintro (mark | ⟨rfl, -⟩ | ⟨rfl, -⟩ | ⟨rfl, -⟩)
  · apply other
    simp only [List.mem_cons, List.not_mem_nil, or_false] at mark
    rcases mark with rfl | rfl | rfl <;> decide
  · exact other (by decide)
  · exact other (by decide)
  · exact other (by decide)

/-- Characters that open nothing are segments of their own. -/
theorem scan_append_of_forall_notMem {word : Text}
    (inert : ∀ character ∈ word, character ∉ openers) (rest : Text) :
    scan (word ++ rest) = word.map single ++ scan rest := by
  induction word with
  | nil => rfl
  | cons character word ih =>
      obtain ⟨first, others⟩ := List.forall_mem_cons.1 inert
      rw [List.cons_append, scan_cons,
        cut_of_not_opens (not_opens_of_notMem first _), ih others]
      rfl

end Segment

end SqlAnywhere
