import SqlAnywhere.ColumnType.Reported
import SqlAnywhere.Proofs.Words

/-!
# The name of a reported type

A type text is read up to the first character that cannot belong to a type
name.  What is read is the longest start of the text that holds words of type
names alone, and an argument is found only where this start reaches up to it.
The type is then described by the words that were read, by the argument and by
whether the text says that it is unsigned.
-/

namespace SqlAnywhere

namespace ReportedType

open Text

/-! ## Words of type names -/

/-- A word that may belong to a type name. -/
structure IsTypeWord (word : Text) : Prop where
  starts : isNameWord word
  parts : ∀ character ∈ word, isNamePart character

/-- A text that holds words of type names alone. -/
def Readable (text : Text) : Prop :=
  ∀ word ∈ words text, IsTypeWord word

instance (word : Text) : Decidable (IsTypeWord word) :=
  decidable_of_iff (isNameWord word ∧ word.all isNamePart)
    ⟨fun typed => ⟨typed.1, List.all_eq_true.1 typed.2⟩,
      fun typed => ⟨typed.starts, List.all_eq_true.2 typed.parts⟩⟩

instance (text : Text) : Decidable (Readable text) :=
  inferInstanceAs (Decidable (∀ word ∈ words text, IsTypeWord word))

/-- The characters of type names belong to words. -/
theorem isWordCharacter_of_isNamePart {character : Char}
    (part : isNamePart character) : isWordCharacter character := by
  simp only [isNamePart, isNameStart, Bool.or_eq_true, decide_eq_true_eq] at part
  rcases part with (letter | rfl) | digit
  · exact isWordCharacter_of_foldsToLetter letter
  · decide
  · exact isWordCharacter_of_isDigit digit

/-- No character of a type name is a blank. -/
theorem not_isBlank_of_isNamePart {character : Char}
    (part : isNamePart character) : ¬ isBlank character :=
  fun blank =>
    (folds_and_ends_of_isBlank blank).2 (isWordCharacter_of_isNamePart part)

theorem IsTypeWord.ne_nil {word : Text} (typed : IsTypeWord word) :
    word ≠ [] := by
  rintro rfl
  exact absurd typed.starts (by decide)

/-- A word of a type name is one word. -/
theorem IsTypeWord.isWord {word : Text} (typed : IsTypeWord word) :
    IsWord word :=
  ⟨typed.ne_nil, fun character member =>
    not_isBlank_of_isNamePart (typed.parts character member)⟩

/--
A word of a type name goes on with each character that may belong to one.
-/
theorem IsTypeWord.concat {word : Text} (typed : IsTypeWord word)
    {character : Char} (part : isNamePart character) :
    IsTypeWord (word ++ [character]) := by
  obtain ⟨first, others, rfl⟩ := List.exists_cons_of_ne_nil typed.ne_nil
  refine ⟨typed.starts, ?_⟩
  rw [List.forall_mem_append, List.forall_mem_singleton]
  exact ⟨typed.parts, part⟩

/-- Blanks after a text leave it readable. -/
theorem readable_append_blank {text after : Text} (blank : IsBlankText after) :
    Readable (text ++ after) ↔ Readable text := by
  rw [Readable, words_append_blank text blank, Readable]

/-- Whether a character may stand in a type name or between its words. -/
def isInName (character : Char) : Bool :=
  isNamePart character || isBlank character

/-- A readable text holds blanks and the characters of type names. -/
theorem Readable.isInName {text : Text} (readable : Readable text) :
    ∀ character ∈ text, isInName character := by
  intro character member
  rw [ReportedType.isInName, Bool.or_eq_true]
  by_cases blank : isBlank character
  · exact .inr blank
  · obtain ⟨word, listed, inside⟩ := exists_mem_words_iff.2 ⟨member, blank⟩
    exact .inl ((readable word listed).parts character inside)

/-! ## The longest name at the start of a text -/

/--
The longest start of a text that holds words of type names alone, and the
rest.
-/
structure IsLongestName (text read unread : Text) : Prop where
  whole : text = read ++ unread
  readable : Readable read
  longest : ∀ start, start <+: text → Readable start → start <+: read

/-- Every text has a longest name at its start. -/
theorem exists_isLongestName (text : Text) :
    ∃ read unread, IsLongestName text read unread := by
  induction text using List.reverseRecOn with
  | nil => exact ⟨[], [], rfl, nofun, fun _ opens _ => opens⟩
  | append_singleton text last ih =>
      by_cases readable : Readable (text ++ [last])
      · exact ⟨text ++ [last], [], by simp, readable, fun _ opens _ => opens⟩
      · obtain ⟨read, unread, rfl, inside, longest⟩ := ih
        refine ⟨read, unread ++ [last], by simp, inside, ?_⟩
        intro start opens readable'
        rcases List.prefix_concat_iff.1 opens with rfl | shorter
        · exact absurd readable' readable
        · exact longest start shorter readable'

/-- A readable text is the longest name at its own start. -/
theorem isLongestName_self {text : Text} (readable : Readable text) :
    IsLongestName text text [] :=
  ⟨by simp, readable, fun _ opens _ => opens⟩

/-- The longest name is the only one, and with it the rest. -/
theorem IsLongestName.unique {text read unread read' unread' : Text}
    (longest : IsLongestName text read unread)
    (longest' : IsLongestName text read' unread') :
    read = read' ∧ unread = unread' := by
  have first : read' <+: read :=
    longest.longest read' ⟨unread', longest'.whole.symm⟩ longest'.readable
  have second : read <+: read' :=
    longest'.longest read ⟨unread, longest.whole.symm⟩ longest.readable
  have same : read = read' :=
    second.eq_of_length (le_antisymm second.length_le first.length_le)
  subst same
  exact ⟨rfl, List.append_cancel_left (longest.whole.symm.trans longest'.whole)⟩

/--
What a name is cut off by: a character that belongs to no name, or, where no
word has begun, one that begins none.
-/
structure CutsOff (read : Text) (next : Char) : Prop where
  solid : ¬ isBlank next
  foreign : isNamePart next →
    (∀ last ∈ read.getLast?, isBlank last) ∧ ¬ isNameStart next

/-- The longest name is cut off by what follows it. -/
theorem IsLongestName.cutsOff {text read rest : Text} {next : Char}
    (longest : IsLongestName text read (next :: rest)) : CutsOff read next := by
  have unreadable : ¬ Readable (read ++ [next]) := by
    intro readable
    have opens : read ++ [next] <+: text :=
      ⟨rest, by rw [longest.whole]; simp⟩
    have shorter := (longest.longest _ opens readable).length_le
    rw [List.length_append, List.length_singleton] at shorter
    omega
  have solid : ¬ isBlank next := fun blank =>
    unreadable ((readable_append_blank (by simpa [IsBlankText] using blank)).2
      longest.readable)
  refine ⟨solid, fun part => ?_⟩
  obtain ⟨front, stretch, rfl, ends, unbroken⟩ := exists_last_stretch read
  have inside : Readable (front ++ stretch) := longest.readable
  rw [Readable, words_append ends, List.forall_mem_append] at inside
  -- The last word is one of a type name, alone or with the next character.
  have last : ¬ IsTypeWord (stretch ++ [next]) := by
    intro typed
    apply unreadable
    rw [List.append_assoc, Readable, words_append ends,
      typed.isWord.words_eq, List.forall_mem_append,
      List.forall_mem_singleton]
    exact ⟨inside.1, typed⟩
  have nothing : stretch = [] := by
    by_contra present
    have isWord : IsWord stretch := ⟨present, unbroken⟩
    rw [isWord.words_eq, List.forall_mem_singleton] at inside
    exact last (inside.2.concat part)
  subst nothing
  rw [List.append_nil]
  exact ⟨ends, fun begins => last ⟨begins, by simpa using part⟩⟩

/-! ## What is read -/

/--
The words that the name of a type has after its marks for unsigned, in lower
case.
-/
def namedBy (words : List Text) : List Text :=
  dropUnsigned ((dropUnsignedMark words).map lower)

/--
The word that marks a type as unsigned is spelled by its letters in any case.
-/
theorem spells_of_lower_eq {word : Text} (same : lower word = unsignedWord) :
    Spells word unsignedWord := by
  have letters : ∀ character ∈ word, foldCharacter character =
      lowerCharacter character := by
    intro character member
    rw [foldCharacter, if_neg]
    rintro rfl
    have listed : lowerCharacter '\u017f' ∈ lower word :=
      List.mem_map_of_mem member
    rw [same] at listed
    exact absurd listed (by decide)
  rw [Spells, List.map_congr_left letters, ← same, lower]

/--
A word is dropped as a mark where it spells one and another word follows.
-/
theorem dropUnsignedMark_cons {word : Text} {words : List Text}
    (present : words ≠ []) :
    dropUnsignedMark (word :: words) =
      if Spells word unsignedWord then words else word :: words := by
  have spelled : dropKeyword? unsignedWord word = some [] ↔
      Spells word unsignedWord := by
    simp [dropKeyword?_eq_some_iff]
  cases words with
  | nil => exact absurd rfl present
  | cons next words => simp only [dropUnsignedMark, spelled]

/-- A name that begins with no mark is all that is left of it. -/
theorem namedBy_of_unmarked {words : List Text}
    (unmarked : ∀ word ∈ words.head?, ¬ Spells word unsignedWord) :
    namedBy words = words.map lower := by
  cases words with
  | nil => rfl
  | cons word words =>
      have other : ¬ Spells word unsignedWord := unmarked word rfl
      have kept : dropUnsignedMark (word :: words) = word :: words := by
        cases words with
        | nil => rfl
        | cons next words =>
            rw [dropUnsignedMark_cons (List.cons_ne_nil _ _), if_neg other]
      rw [namedBy, kept, List.map_cons, dropUnsigned,
        if_neg (other ∘ spells_of_lower_eq)]

/--
A mark before other words is dropped, and with it one more in lower-case
letters.
-/
theorem namedBy_of_marked {mark : Text} (spelled : Spells mark unsignedWord)
    {words : List Text} (present : words ≠ []) :
    namedBy (mark :: words) = dropUnsigned (words.map lower) := by
  rw [namedBy, dropUnsignedMark_cons present, if_pos spelled]

/-- The type that the words of a name and an argument after it describe. -/
def ofWords (words : List Text) (argument : Option Text) (unsigned : Bool) :
    ReportedType :=
  let numbers := (if words.isEmpty then none else argument).map readArgument
  { name := [' '].intercalate (namedBy words)
    size := numbers.bind (·.1)
    scale := numbers.bind (·.2.1)
    unsigned }

/--
Of the words at the start of a text those are read that precede the first
that begins no name, and what follows them only where there is none.
-/
theorem nameWords_eq {text : Text} {candidates : List Text}
    (found : words (text.takeWhile isInName) = candidates) :
    nameWords text =
      (candidates.takeWhile isNameWord,
        if (candidates.takeWhile isNameWord).length = candidates.length then
          text.dropWhile isInName
        else
          []) := by
  subst found
  rw [nameWords]
  split
  · next all => exact congrArg (Prod.mk _) (if_pos all).symm
  · next some => exact congrArg (Prod.mk _) (if_neg some).symm

/--
All words of a readable text are read, and what follows it where no name goes
on there.
-/
theorem nameWords_of_readable {read rest : Text} (readable : Readable read)
    (ends : ∀ next ∈ rest.head?, ¬ isInName next) :
    nameWords (read ++ rest) = (words read, rest) := by
  have inside : (read ++ rest).takeWhile isInName = read := by
    rw [List.takeWhile_append_of_pos readable.isInName]
    cases rest with
    | nil => exact List.append_nil read
    | cons next rest =>
        rw [List.takeWhile_cons_of_neg (ends next rfl), List.append_nil]
  have after : (read ++ rest).dropWhile isInName = rest := by
    rw [List.dropWhile_append_of_pos readable.isInName]
    cases rest with
    | nil => rfl
    | cons next rest => rw [List.dropWhile_cons_of_neg (ends next rfl)]
  have each : (words read).takeWhile isNameWord = words read :=
    List.takeWhile_eq_self_iff.2 fun word listed => (readable word listed).starts
  rw [nameWords_eq (congrArg words inside), each, after, if_pos rfl]

/--
A name that does not go on with a word is read up to there, and nothing after
it.
-/
theorem nameWords_of_foreign {read rest : Text} {next : Char}
    (readable : Readable read) (ends : ∀ last ∈ read.getLast?, isBlank last)
    (part : isNamePart next) (foreign : ¬ isNameStart next) :
    nameWords (read ++ next :: rest) = (words read, []) := by
  have goesOn : isInName next := by simp [isInName, part]
  have inside : (read ++ next :: rest).takeWhile isInName =
      read ++ next :: rest.takeWhile isInName := by
    rw [List.takeWhile_append_of_pos readable.isInName,
      List.takeWhile_cons_of_pos goesOn]
  obtain ⟨word, others, found⟩ :=
    exists_words_cons (not_isBlank_of_isNamePart part) (rest.takeWhile isInName)
  have candidates : words ((read ++ next :: rest).takeWhile isInName) =
      words read ++ (next :: word) :: others := by
    rw [inside, words_append ends, found]
  have noWord : ¬ isNameWord (next :: word) := foreign
  have each : (words read ++ (next :: word) :: others).takeWhile isNameWord =
      words read := by
    rw [List.takeWhile_append_of_pos
        fun word listed => (readable word listed).starts,
      List.takeWhile_cons_of_neg noWord, List.append_nil]
  rw [nameWords_eq candidates, each, if_neg (by simp)]

/--
What is read of a name is the longest name at its start, and an argument that
it reaches.
-/
theorem nameWords_of_isLongestName {name rest read unread : Text}
    (longest : IsLongestName name read unread) (unopened : '(' ∉ name)
    (opens : ∀ next ∈ rest.head?, next = '(') :
    (nameWords (name ++ rest)).1 = words read ∧
      argument? (nameWords (name ++ rest)).2 =
        if unread = [] then argument? rest else none := by
  have whole := longest.whole
  cases unread with
  | nil =>
      rw [List.append_nil] at whole
      rw [whole, nameWords_of_readable longest.readable]
      · exact ⟨rfl, rfl⟩
      · intro next member
        rw [opens next member]
        exact by decide
  | cons next unread =>
      have off := longest.cutsOff
      rw [whole, List.append_assoc, List.cons_append, if_neg (List.cons_ne_nil _ _)]
      by_cases part : isNamePart next
      · obtain ⟨ends, foreign⟩ := off.foreign part
        rw [nameWords_of_foreign longest.readable ends part foreign]
        exact ⟨rfl, rfl⟩
      · have closed : next ≠ '(' := by
          rintro rfl
          exact unopened (by rw [whole]; simp)
        rw [nameWords_of_readable longest.readable]
        · refine ⟨rfl, ?_⟩
          rw [argument?]
          rintro _ ⟨⟩
          exact closed rfl
        · rintro _ ⟨⟩
          simp [isInName, part, off.solid]

/--
A type is described by the words that are read, by the argument after them
and by whether the text says that it is unsigned.
-/
theorem ofText_eq (text : Text) :
    ofText text =
      ofWords (nameWords text).1 (argument? (nameWords text).2)
        (hasFragment unsignedWord (lower text)) := by
  rw [ofText, ReportedType.read]
  generalize nameWords text = found
  obtain ⟨found, after⟩ := found
  cases found with
  | nil => rfl
  | cons word others =>
      dsimp only
      cases argument? after with
      | none => rfl
      | some argument => rfl

/--
A type text is described by the longest name at its start and by the argument
that it reaches.
-/
theorem ofText_of_isLongestName {name rest read unread : Text}
    (longest : IsLongestName name read unread) (unopened : '(' ∉ name)
    (opens : ∀ next ∈ rest.head?, next = '(') :
    ofText (name ++ rest) =
      ofWords (words read) (if unread = [] then argument? rest else none)
        (hasFragment unsignedWord (lower (name ++ rest))) := by
  obtain ⟨first, second⟩ :=
    nameWords_of_isLongestName longest unopened opens
  rw [ofText_eq, first, second]

/-! ## Blanks around a type text -/

/--
What stands between parentheses is found where it holds none that closes.
-/
theorem argument?_of_notMem {argument : Text} (unclosed : ')' ∉ argument)
    (trailing : Text) :
    argument? ('(' :: argument ++ ')' :: trailing) = some argument := by
  have inside : (argument ++ ')' :: trailing).takeWhile (· ≠ ')') =
      argument := by
    rw [List.takeWhile_append_of_pos, List.takeWhile_cons_of_neg (by simp),
      List.append_nil]
    intro character member
    rw [decide_eq_true_eq]
    rintro rfl
    exact unclosed member
  rw [List.cons_append, argument?, if_pos (by simp), inside]

section Blanks

variable {blanks : Text} (blank : IsBlankText blanks)

include blank

/-- No letter of the mark for unsigned is a blank. -/
theorem apart_of_isBlankText : Apart unsignedWord blanks := by
  have unbroken : ∀ letter ∈ unsignedWord, ¬ isBlank letter :=
    forall_mem_of_all (by decide)
  intro character member letter
  exact unbroken character letter (blank character member)

theorem isInName_of_isBlankText :
    ∀ character ∈ blanks, isInName character := by
  intro character member
  simp [isInName, blank character member]

/-- Blanks before a type text are not read. -/
theorem ofText_append_of_isBlankText (text : Text) :
    ofText (blanks ++ text) = ofText text := by
  have inside : (blanks ++ text).takeWhile isInName =
      blanks ++ text.takeWhile isInName :=
    List.takeWhile_append_of_pos (isInName_of_isBlankText blank)
  have after : (blanks ++ text).dropWhile isInName = text.dropWhile isInName :=
    List.dropWhile_append_of_pos (isInName_of_isBlankText blank)
  have candidates : words ((blanks ++ text).takeWhile isInName) =
      words (text.takeWhile isInName) := by
    rw [inside, words_append_of_isBlankText blank]
  have marked : hasFragment unsignedWord (lower (blanks ++ text)) =
      hasFragment unsignedWord (lower text) := by
    rw [Bool.eq_iff_iff, hasFragment_iff, hasFragment_iff, lower_append,
      lower_of_isBlankText blank,
      infix_apart_append_iff (by decide) (apart_of_isBlankText blank)]
  rw [ofText_eq, ofText_eq, nameWords_eq candidates, nameWords_eq rfl, after,
    marked]

/-- Blanks after an argument, or after what opens none, are not read. -/
theorem argument?_append_of_isBlankText {text : Text} (present : text ≠ []) :
    argument? (text ++ blanks) = argument? text := by
  obtain ⟨first, rest, rfl⟩ := List.exists_cons_of_ne_nil present
  by_cases opening : first = '('
  · subst opening
    by_cases closed : ')' ∈ rest
    · obtain ⟨argument, trailing, rfl, unclosed⟩ :=
        List.eq_append_cons_of_mem closed
      have longer := argument?_of_notMem unclosed (trailing ++ blanks)
      have shorter := argument?_of_notMem unclosed trailing
      rw [List.cons_append] at longer shorter
      rw [List.cons_append, List.append_assoc, List.cons_append, longer, shorter]
    · have unclosed : ')' ∉ rest ++ blanks := by
        rw [List.mem_append, not_or]
        exact ⟨closed, fun member => absurd (blank _ member) (by decide)⟩
      rw [List.cons_append, argument?, argument?, if_neg closed, if_neg unclosed]
  · rw [argument?, argument?]
    · rintro _ ⟨⟩
      exact opening rfl
    · rintro _ ⟨⟩
      exact opening rfl

/-- Blanks after a type text are not read. -/
theorem ofText_append_blank (text : Text) :
    ofText (text ++ blanks) = ofText text := by
  have marked : hasFragment unsignedWord (lower (text ++ blanks)) =
      hasFragment unsignedWord (lower text) := by
    rw [Bool.eq_iff_iff, hasFragment_iff, hasFragment_iff, lower_append,
      lower_of_isBlankText blank,
      infix_append_apart_iff (by decide) (apart_of_isBlankText blank)]
  by_cases all : ∀ character ∈ text, isInName character
  · -- The name goes on over the blanks, and nothing is left after it.
    have all' : ∀ character ∈ text ++ blanks, isInName character :=
      List.forall_mem_append.2 ⟨all, isInName_of_isBlankText blank⟩
    have candidates : words ((text ++ blanks).takeWhile isInName) =
        words (text.takeWhile isInName) := by
      rw [List.takeWhile_eq_self_iff.2 all', List.takeWhile_eq_self_iff.2 all,
        words_append_blank text blank]
    rw [ofText_eq, ofText_eq, nameWords_eq candidates, nameWords_eq rfl,
      List.dropWhile_eq_nil_iff.2 all', List.dropWhile_eq_nil_iff.2 all, marked]
  · have rest : text.dropWhile isInName ≠ [] := by
      rwa [Ne, List.dropWhile_eq_nil_iff]
    have inside : (text ++ blanks).takeWhile isInName =
        text.takeWhile isInName := by
      rw [List.takeWhile_append, if_neg]
      intro full
      have whole := (List.takeWhile_prefix isInName).eq_of_length full
      exact all (List.takeWhile_eq_self_iff.1 whole)
    have after : (text ++ blanks).dropWhile isInName =
        text.dropWhile isInName ++ blanks := by
      rw [List.dropWhile_append, if_neg]
      simpa using rest
    have argued := argument?_append_of_isBlankText blank rest
    rw [ofText_eq, ofText_eq, nameWords_eq (congrArg words inside),
      nameWords_eq rfl, after, marked]
    dsimp only
    split
    · rw [argued]
    · rfl

end Blanks

/-- A type text is read as it is without the blanks around it. -/
theorem ofText_trim (text : Text) : ofText (trim text) = ofText text := by
  obtain ⟨before, after, blank, blank', whole⟩ := exists_blanks_around_trim text
  have read := ofText_append_blank blank' (before ++ trim text)
  rw [← whole, ofText_append_of_isBlankText blank] at read
  exact read.symm

end ReportedType

end SqlAnywhere
