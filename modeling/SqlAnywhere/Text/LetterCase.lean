import SqlAnywhere.Text.Basic

/-!
# Letter case

Three ways to disregard case meet in the catalog.  Identifiers are compared
in ASCII case.  Type names and defaults are put into lower case before they
are looked up, where only characters that become ASCII letters matter.
Keywords and type names are recognised under simple case folding, which adds
the two characters outside ASCII that fold to an ASCII letter: the long s and
the Kelvin sign.
-/

namespace SqlAnywhere

/--
The lower-case form of a character, where that form is an ASCII character.

Besides the ASCII letters only the Kelvin sign has one, so that a text put
into lower case holds the same ASCII words as under the full mapping.
-/
def lowerCharacter (character : Char) : Char :=
  if character = '\u212a' then 'k' else character.toLower

/-- The ASCII letter that a character folds to, or the character itself. -/
def foldCharacter (character : Char) : Char :=
  if character = '\u017f' then 's' else lowerCharacter character

/-- Whether a character folds to a letter from `a` to `z`. -/
def foldsToLetter (character : Char) : Bool :=
  (foldCharacter character).isLower

namespace Text

/-- A text in lower case, as far as its ASCII words go. -/
def lower (text : Text) : Text :=
  text.map lowerCharacter

/-- A text whose ASCII letters are all in lower case. -/
def foldAscii (text : Text) : Text :=
  text.map Char.toLower

/-- Whether two texts differ at most in the case of ASCII letters. -/
def sameLetters (first second : Text) : Bool :=
  foldAscii first == foldAscii second

/--
What follows a keyword at the start of a text, in any case; the keyword
itself is given in lower case.
-/
def dropKeyword? : (keyword : Text) → Text → Option Text
  | [], text => some text
  | _ :: _, [] => none
  | letter :: letters, character :: rest =>
      if foldCharacter character = letter then
        dropKeyword? letters rest
      else
        none

@[simp]
theorem sameLetters_iff (first second : Text) :
    sameLetters first second ↔ foldAscii first = foldAscii second := by
  simp [sameLetters]

@[simp]
theorem sameLetters_refl (text : Text) : sameLetters text text := by
  simp

theorem sameLetters_comm (first second : Text) :
    sameLetters first second = sameLetters second first := by
  unfold sameLetters
  exact BEq.comm

theorem sameLetters_trans {first second third : Text}
    (left : sameLetters first second) (right : sameLetters second third) :
    sameLetters first third := by
  rw [sameLetters_iff] at *
  exact left.trans right

end Text

end SqlAnywhere
