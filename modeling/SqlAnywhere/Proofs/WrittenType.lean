import SqlAnywhere.Proofs.TypeName

/-!
# Type texts read back

A type text is written from the words of a name, with a mark for unsigned
before them and an argument of one or two numbers after them, each between
blanks of its own.  It is read back from this writing whatever the blanks are
and whatever follows the argument: the name in lower case with single spaces,
the numbers of the argument, and whether the mark or what follows says that
the type is unsigned.
-/

namespace SqlAnywhere

/-! ## Numbers between blanks -/

namespace Numeral

/-- A number is written in digits, after a sign that it may have. -/
theorem mem_ofInt64 {number : Int64} {character : Char}
    (member : character ∈ ofInt64 number) :
    character = '-' ∨ character.isDigit := by
  rw [ofInt64] at member
  cases shape : number.toInt with
  | ofNat magnitude =>
      rw [shape, ofInt] at member
      exact .inr (isDigit_of_mem_ofNat member)
  | negSucc magnitude =>
      rw [shape, ofInt] at member
      rcases List.mem_cons.1 member with sign | digit
      · exact .inl sign
      · exact .inr (isDigit_of_mem_ofNat digit)

/-- A number in decimal digits, with blanks around it. -/
inductive Padded (number : Int64) : Text → Prop where
  | intro {before after : Text} (blank : IsBlankText before)
      (blank' : IsBlankText after) :
      Padded number (before ++ ofInt64 number ++ after)

/-- A number without blanks around it. -/
theorem padded_ofInt64 (number : Int64) : Padded number (ofInt64 number) := by
  have padded : Padded number ([] ++ ofInt64 number ++ []) :=
    .intro (by decide) (by decide)
  rwa [List.nil_append, List.append_nil] at padded

namespace Padded

variable {number : Int64} {text : Text} (padded : Padded number text)

include padded

theorem mem {character : Char} (member : character ∈ text) :
    isBlank character ∨ character = '-' ∨ character.isDigit := by
  cases padded with
  | intro blank blank' =>
      simp only [List.mem_append] at member
      rcases member with (first | inside) | last
      · exact .inl (blank character first)
      · exact .inr (mem_ofInt64 inside)
      · exact .inl (blank' character last)

/-- No other mark stands in a number or around it. -/
theorem notMem {mark : Char} (solid : ¬ isBlank mark) (noSign : mark ≠ '-')
    (noDigit : ¬ mark.isDigit) : mark ∉ text := by
  intro member
  rcases padded.mem member with blank | sign | digit
  · exact solid blank
  · exact noSign sign
  · exact noDigit digit

/-- A number and the blanks around it are in lower case. -/
theorem lower_eq : Text.lower text = text := by
  refine (List.map_congr_left fun character member => ?_).trans (List.map_id _)
  rcases padded.mem member with blank | rfl | digit
  · exact lowerCharacter_of_isBlank blank
  · rfl
  · have known : ∀ code < 0x80, (Char.ofNat code).isDigit →
        lowerCharacter (Char.ofNat code) = Char.ofNat code := by
      decide +kernel
    have ascii : character.toNat < 0x80 := by
      have last : character.toNat ≤ 57 := (Char.isDigit_iff_toNat.1 digit).2
      omega
    have same := known _ ascii
    rw [Char.ofNat_toNat] at same
    exact same digit

/-- No letter of the mark for unsigned stands in a number or around it. -/
theorem apart : Text.Apart unsignedWord text := by
  have known : ∀ letter ∈ unsignedWord,
      ¬ isBlank letter ∧ letter ≠ '-' ∧ ¬ letter.isDigit :=
    Text.forall_mem_of_all (by decide)
  intro character member letter
  obtain ⟨solid, noSign, noDigit⟩ := known character letter
  exact padded.notMem solid noSign noDigit member

/-- A number is read back from between blanks. -/
theorem readInt64?_trim : readInt64? (Text.trim text) = some number := by
  cases padded with
  | intro blank blank' =>
      have solid : ∀ character ∈ ofInt64 number, ¬ isBlank character := by
        intro character member
        rcases mem_ofInt64 member with rfl | digit
        · decide
        · exact not_isBlank_of_isDigit digit
      rw [Text.trim_append_of_isBlankText blank _ blank',
        Text.trim_of_forall_not_isBlank solid, readInt64?_ofInt64]

end Padded

end Numeral

/-! ## Lower case -/

namespace Text

/--
Lower case is that of the ASCII letters in a text without the Kelvin sign.
-/
theorem lower_eq_foldAscii {text : Text} (plain : '\u212a' ∉ text) :
    lower text = foldAscii text := by
  refine List.map_congr_left fun character member => ?_
  rw [lowerCharacter, if_neg]
  rintro rfl
  exact plain member

end Text

namespace ReportedType

open Text Numeral

/-! ## The parts of a type text -/

/-- Words of the form `[a-z_][a-z0-9_]*`, in any ASCII case. -/
structure IsPlainWord (word : Text) : Prop where
  present : word ≠ []
  starts : ∀ first ∈ word.head?, first.toLower.isLower ∨ first = '_'
  parts :
    ∀ character ∈ word,
      character.toLower.isLower ∨ character.isDigit ∨ character = '_'

instance (word : Text) : Decidable (IsPlainWord word) :=
  decidable_of_iff
    (word ≠ [] ∧
      (word.head?.all fun first => first.toLower.isLower || first = '_') ∧
      word.all fun character =>
        character.toLower.isLower || character.isDigit || character = '_')
    (by
      simp only [Option.all_eq_true, List.all_eq_true, Bool.or_eq_true,
        decide_eq_true_eq, or_assoc]
      exact ⟨fun checked => ⟨checked.1, checked.2.1, checked.2.2⟩,
        fun plain => ⟨plain.present, plain.starts, plain.parts⟩⟩)

/--
What follows the name of a type: nothing, or one or two numbers in
parentheses and any text after them.
-/
inductive IsArgument : Option Int64 → Option Int64 → Text → Text → Prop where
  | absent : IsArgument none none [] []
  | sized {size : Int64} {argument : Text} (padded : Padded size argument)
      (trailing : Text) :
      IsArgument (some size) none trailing
        ('(' :: argument ++ ')' :: trailing)
  | scaled {size scale : Int64} {first second : Text}
      (padded : Padded size first) (padded' : Padded scale second)
      (trailing : Text) :
      IsArgument (some size) (some scale) trailing
        ('(' :: (first ++ ',' :: second) ++ ')' :: trailing)

namespace IsPlainWord

variable {word : Text} (plain : IsPlainWord word)

include plain

theorem isTypeWord : IsTypeWord word := by
  obtain ⟨first, others, rfl⟩ := List.exists_cons_of_ne_nil plain.present
  constructor
  · rcases plain.starts first rfl with letter | rfl
    · simp [isNameWord, isNameStart, foldsToLetter_of_isLower_toLower letter]
    · simp [isNameWord, isNameStart]
  · intro character member
    rcases plain.parts character member with letter | digit | rfl
    · simp [isNamePart, isNameStart, foldsToLetter_of_isLower_toLower letter]
    · simp [isNamePart, digit]
    · decide

/-- Words of ASCII are put into lower case as ASCII is. -/
theorem lower_eq : lower word = foldAscii word := by
  apply lower_eq_foldAscii
  intro member
  exact absurd (plain.parts _ member) (by decide)

/-- Words of ASCII spell a keyword where they are it in lower case. -/
theorem spells_iff {keyword : Text} :
    Spells word keyword ↔ lower word = keyword := by
  have folded : word.map foldCharacter = lower word := by
    refine List.map_congr_left fun character member => ?_
    rw [foldCharacter, if_neg]
    rintro rfl
    exact absurd (plain.parts _ member) (by decide)
  rw [Spells, folded]

end IsPlainWord

/-- The mark for unsigned in any ASCII case is a word of a type name. -/
theorem isPlainWord_of_mark {mark : Text}
    (marks : sameLetters mark unsignedWord) : IsPlainWord mark := by
  have letters : foldAscii mark = unsignedWord := (sameLetters_iff _ _).1 marks
  have each : ∀ character ∈ mark, character.toLower.isLower := by
    intro character member
    have listed : character.toLower ∈ foldAscii mark :=
      List.mem_map_of_mem member
    rw [letters] at listed
    have known : ∀ letter ∈ unsignedWord, letter.isLower :=
      forall_mem_of_all (by decide)
    exact known _ listed
  refine ⟨?_, fun first member => .inl (each first (List.mem_of_mem_head? member)),
    fun character member => .inl (each character member)⟩
  rintro rfl
  exact absurd letters (by decide)

/-- A number in parentheses is the size. -/
theorem readArgument_of_padded {size : Int64} {argument : Text}
    (padded : Padded size argument) :
    readArgument argument = (some size, none, none) := by
  have whole : ',' ∉ argument :=
    padded.notMem (by decide) (by decide) (by decide)
  simp only [readArgument, List.splitOn_eq_singleton whole,
    List.map_singleton, padded.readInt64?_trim]

/-- Two numbers in parentheses are the size and the scale. -/
theorem readArgument_of_padded₂ {size scale : Int64} {first second : Text}
    (padded : Padded size first) (padded' : Padded scale second) :
    readArgument (first ++ ',' :: second) = (some size, some scale, none) := by
  have whole : ',' ∉ first := padded.notMem (by decide) (by decide) (by decide)
  have whole' : ',' ∉ second :=
    padded'.notMem (by decide) (by decide) (by decide)
  simp only [readArgument, List.splitOn_append_cons_self_of_not_mem whole,
    List.splitOn_eq_singleton whole', List.map_cons, List.map_nil,
    padded.readInt64?_trim, padded'.readInt64?_trim]

namespace IsArgument

variable {size scale : Option Int64} {trailing rest : Text}
  (argued : IsArgument size scale trailing rest)

include argued

/-- An argument begins with its parenthesis. -/
theorem opens : ∀ next ∈ rest.head?, next = '(' := by
  cases argued with
  | absent => exact nofun
  | sized | scaled =>
      rintro _ ⟨⟩
      rfl

/-- The size and the scale are read from an argument. -/
theorem map_readArgument_eq :
    ((argument? rest).map readArgument).bind (·.1) = size ∧
      ((argument? rest).map readArgument).bind (·.2.1) = scale := by
  cases argued with
  | absent => exact ⟨rfl, rfl⟩
  | @sized size argument padded trailing =>
      have unclosed : ')' ∉ argument :=
        padded.notMem (by decide) (by decide) (by decide)
      rw [argument?_of_notMem unclosed, Option.map_some,
        readArgument_of_padded padded]
      exact ⟨rfl, rfl⟩
  | @scaled size scale first second padded padded' trailing =>
      have unclosed : ')' ∉ first ++ ',' :: second := by
        simp only [List.mem_append, List.mem_cons, not_or]
        exact ⟨padded.notMem (by decide) (by decide) (by decide), by decide,
          padded'.notMem (by decide) (by decide) (by decide)⟩
      rw [argument?_of_notMem unclosed, Option.map_some,
        readArgument_of_padded₂ padded padded']
      exact ⟨rfl, rfl⟩

/-- An argument brings no mark for unsigned, but what follows it can. -/
theorem unsigned_infix_append_iff (text : Text) :
    unsignedWord <:+: text ++ lower rest ↔
      unsignedWord <:+: text ∨ unsignedWord <:+: lower trailing := by
  have present : unsignedWord ≠ [] := by decide
  have enclosed {argument : Text} (lowered : lower argument = argument)
      (apart : Apart unsignedWord argument) (trailing : Text) :
      unsignedWord <:+: text ++ lower ('(' :: argument ++ ')' :: trailing) ↔
        unsignedWord <:+: text ∨ unsignedWord <:+: lower trailing := by
    have shape : lower ('(' :: argument ++ ')' :: trailing) =
        '(' :: (argument ++ [')']) ++ lower trailing := by
      rw [lower_append, lower, List.map_cons, ← lower, lowered]
      simp [lower, lowerCharacter]
    have others : Apart unsignedWord ('(' :: (argument ++ [')'])) := by
      refine List.forall_mem_cons.2 ⟨by decide, ?_⟩
      exact List.forall_mem_append.2
        ⟨apart, List.forall_mem_singleton.2 (by decide)⟩
    rw [shape, infix_append_apart_append_iff present others (List.cons_ne_nil _ _)]
  cases argued with
  | absent => simp [lower, present]
  | sized padded trailing => exact enclosed padded.lower_eq padded.apart trailing
  | scaled padded padded' trailing =>
      refine enclosed ?_ ?_ trailing
      · rw [lower_append, padded.lower_eq, lower, List.map_cons, ← lower,
          padded'.lower_eq]
        rfl
      · exact List.forall_mem_append.2 ⟨padded.apart,
          List.forall_mem_cons.2 ⟨by decide, padded'.apart⟩⟩

end IsArgument

/-! ## Reading a type text -/

/--
Words with blanks between and around them, and an argument after them, are
read as the words of the name and as the size and the scale.
-/
theorem ofText_of_spaced {parts : List Text}
    (typed : ∀ part ∈ parts, IsTypeWord part)
    {before name after : Text} (blank : IsBlankText before)
    (spaced : Spaced parts name) (blank' : IsBlankText after)
    {size scale : Option Int64} {trailing rest : Text}
    (argued : IsArgument size scale trailing rest) :
    ofText (before ++ name ++ after ++ rest) =
      { name := [' '].intercalate (namedBy parts)
        size
        scale
        unsigned := hasFragment unsignedWord
          (lower (before ++ name ++ after ++ rest)) } := by
  have found : words (before ++ name ++ after) = parts := by
    rw [words_append_blank _ blank', words_append_of_isBlankText blank]
    exact spaced.words_eq fun part member => (typed part member).isWord
  have readable : Readable (before ++ name ++ after) := by
    rwa [Readable, found]
  have unopened : '(' ∉ before ++ name ++ after :=
    fun member => absurd (readable.isInName _ member) (by decide)
  obtain ⟨first, others, rfl⟩ := List.exists_cons_of_ne_nil spaced.ne_nil
  obtain ⟨sized, scaled⟩ := argued.map_readArgument_eq
  rw [ofText_of_isLongestName (isLongestName_self readable) unopened
    argued.opens, found, if_pos rfl, ofWords]
  congr 1

/--
A text of words says that it is unsigned where one of them or what follows
the argument does.
-/
theorem hasFragment_unsignedWord_iff {parts : List Text}
    {before name after : Text} (blank : IsBlankText before)
    (spaced : Spaced parts name) (blank' : IsBlankText after)
    {size scale : Option Int64} {trailing rest : Text}
    (argued : IsArgument size scale trailing rest) :
    hasFragment unsignedWord (lower (before ++ name ++ after ++ rest)) ↔
      (∃ part ∈ parts, unsignedWord <:+: lower part) ∨
        unsignedWord <:+: lower trailing := by
  have present : unsignedWord ≠ [] := by decide
  have unbroken : ∀ character ∈ unsignedWord, ¬ isBlank character :=
    forall_mem_of_all (by decide)
  have inName : unsignedWord <:+: lower (before ++ name ++ after) ↔
      ∃ part ∈ parts, unsignedWord <:+: lower part := by
    rw [lower_append, lower_append, lower_of_isBlankText blank,
      lower_of_isBlankText blank',
      infix_append_apart_iff present (apart_of_isBlankText blank'),
      infix_apart_append_iff present (apart_of_isBlankText blank),
      spaced.lower.infix_iff present unbroken]
    simp only [List.mem_map, exists_exists_and_eq_and]
  rw [hasFragment_iff, lower_append, argued.unsigned_infix_append_iff, inName]

/--
Words that do not say `unsigned` where they are joined do not say it in one
of them.
-/
theorem not_unsigned_of_joined {parts : List Text} (present : parts ≠ [])
    (plain : ∀ part ∈ parts, IsPlainWord part)
    (unmarked : ¬ unsignedWord <:+: foldAscii ([' '].intercalate parts)) :
    ∀ part ∈ parts, ¬ unsignedWord <:+: lower part := by
  intro part member inside
  obtain ⟨before, after, whole⟩ :
      part <:+: [' '].intercalate parts := by
    refine ((spaced_intercalate present).infix_iff ?_ ?_).2
      ⟨part, member, List.infix_refl part⟩
    · exact (plain part member).present
    · exact (plain part member).isTypeWord.isWord.unbroken
  apply unmarked
  rw [(plain part member).lower_eq] at inside
  rw [← whole, foldAscii, List.map_append, List.map_append]
  exact List.infix_append_of_infix_left (List.infix_append_of_infix_right inside)

/-- The mark for unsigned is no part of the name, and all other words are. -/
theorem namedBy_of_parts {parts : List Text} (present : parts ≠ [])
    (plain : ∀ part ∈ parts, IsPlainWord part)
    (unmarked : ∀ part ∈ parts, ¬ unsignedWord <:+: lower part)
    {mark : Option Text}
    (marks : ∀ word ∈ mark, sameLetters word unsignedWord) :
    namedBy (mark.toList ++ parts) = parts.map foldAscii := by
  have lowered : parts.map lower = parts.map foldAscii :=
    List.map_congr_left fun part member => (plain part member).lower_eq
  have other : ∀ part ∈ parts, lower part ≠ unsignedWord := by
    intro part member same
    exact unmarked part member (same ▸ List.infix_refl _)
  cases mark with
  | none =>
      refine (namedBy_of_unmarked fun part first spells => ?_).trans lowered
      have member : part ∈ parts := List.mem_of_mem_head? first
      exact other part member ((plain part member).spells_iff.1 spells)
  | some word =>
      have same : sameLetters word unsignedWord := marks word rfl
      have plain' : IsPlainWord word := isPlainWord_of_mark same
      have spells : Spells word unsignedWord := by
        rw [plain'.spells_iff, plain'.lower_eq]
        exact (sameLetters_iff _ _).1 same
      obtain ⟨part, others, rfl⟩ := List.exists_cons_of_ne_nil present
      rw [Option.toList_some, List.singleton_append,
        namedBy_of_marked spells (List.cons_ne_nil _ _), ← lowered,
        List.map_cons, dropUnsigned, if_neg (other part List.mem_cons_self)]

/--
A mark for unsigned says that a type is unsigned, and no other word of its
name does.
-/
theorem exists_unsigned_part_iff {parts : List Text}
    (unmarked : ∀ part ∈ parts, ¬ unsignedWord <:+: lower part)
    {mark : Option Text}
    (marks : ∀ word ∈ mark, sameLetters word unsignedWord) :
    (∃ part ∈ mark.toList ++ parts, unsignedWord <:+: lower part) ↔
      mark.isSome := by
  cases mark with
  | none => simpa using unmarked
  | some word =>
      have same : sameLetters word unsignedWord := marks word rfl
      have lowered : lower word = unsignedWord := by
        rw [(isPlainWord_of_mark same).lower_eq]
        exact (sameLetters_iff _ _).1 same
      simp [lowered]

/--
A type is read back from its name between blanks, with a mark for unsigned
before it and an argument after it.  The name is given in lower case with
single spaces between its words, the size and the scale are those of the
argument, and the type is unsigned where the mark is there or the text after
the argument says so in any case.
-/
theorem written_type_read_back
    {parts : List Text} (present : parts ≠ [])
    (plain : ∀ part ∈ parts, IsPlainWord part)
    (unmarked : ¬ unsignedWord <:+: foldAscii ([' '].intercalate parts))
    {mark : Option Text}
    (marks : ∀ word ∈ mark, sameLetters word unsignedWord)
    {before name after : Text} (blank : IsBlankText before)
    (spaced : Spaced (mark.toList ++ parts) name)
    (blank' : IsBlankText after)
    {size scale : Option Int64} {trailing rest : Text}
    (argued : IsArgument size scale trailing rest) :
    let reported := ofText (before ++ name ++ after ++ rest)
    reported.name = [' '].intercalate (parts.map foldAscii) ∧
      reported.size = size ∧ reported.scale = scale ∧
      (reported.unsigned ↔
        mark.isSome ∨ unsignedWord <:+: lower trailing) := by
  have typed : ∀ part ∈ mark.toList ++ parts, IsTypeWord part := by
    refine List.forall_mem_append.2 ⟨fun word member => ?_, fun part member =>
      (plain part member).isTypeWord⟩
    exact (isPlainWord_of_mark (marks word (by simpa using member))).isTypeWord
  have unmarked' : ∀ part ∈ parts, ¬ unsignedWord <:+: lower part :=
    not_unsigned_of_joined present plain unmarked
  rw [ofText_of_spaced typed blank spaced blank' argued,
    namedBy_of_parts present plain unmarked' marks]
  refine ⟨rfl, rfl, rfl, ?_⟩
  rw [← exists_unsigned_part_iff unmarked' marks]
  exact hasFragment_unsignedWord_iff blank spaced blank' argued

/--
A mark and two words with blanks between them, two numbers, and more text.
-/
theorem unsigned_double_precision_read_back :
    let reported := ofText "\tUnSigned  Double\nPRECISION (-5, 2 ) x".toList
    reported.name = "double precision".toList ∧
      reported.size = some (-5) ∧ reported.scale = some 2 ∧
      reported.unsigned := by
  have plain : ∀ part ∈ ["Double".toList, "PRECISION".toList],
      IsPlainWord part := by
    rw [List.forall_mem_cons, List.forall_mem_singleton]
    exact ⟨by decide, by decide⟩
  have spaced : Spaced ["UnSigned".toList, "Double".toList, "PRECISION".toList]
      ("UnSigned".toList ++ "  ".toList ++
        ("Double".toList ++ "\n".toList ++ "PRECISION".toList)) :=
    .cons _ (by decide) (by decide)
      (.cons _ (by decide) (by decide) (.single _))
  have argued : IsArgument (some (-5)) (some 2) " x".toList
      ('(' :: (([] ++ Numeral.ofInt64 (-5) ++ []) ++
        ',' :: (" ".toList ++ Numeral.ofInt64 2 ++ " ".toList)) ++
          ')' :: " x".toList) :=
    .scaled (.intro (by decide) (by decide)) (.intro (by decide) (by decide)) _
  have read := @written_type_read_back _ (by decide) plain
    (by decide +kernel) (some "UnSigned".toList) (by decide)
    "\t".toList _ " ".toList (by decide) spaced (by decide) _ _ _ _ argued
  obtain ⟨name, size, scale, unsigned⟩ := read
  exact ⟨name, size, scale, unsigned.2 (.inl rfl)⟩

end ReportedType

end SqlAnywhere
