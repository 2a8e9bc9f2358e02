import SqlAnywhere.Text.Blank
import SqlAnywhere.Text.LetterCase
import SqlAnywhere.Text.WordCharacter

/-!
# The leading SELECT

A statement leads with SELECT if only blanks, opening parentheses and comments
stand before it.  A block comment ends at the first closing mark after which
the statement still leads with SELECT, so that a comment that holds a closing
mark of its own hides nothing.

What is left after the leading SELECT is found for each end of the statement
from right to left.  The scan of what comes before SELECT is in one of six
states, and what is left in each of them follows from what is left one
character further on.
-/

namespace SqlAnywhere

/--
What is left of a text after the leading SELECT, by the state of the scan
before the text.
-/
structure Outlook where
  /-- Outside comments. -/
  outside : Option Text
  /-- After one dash. -/
  afterDash : Option Text
  /-- After one slash. -/
  afterSlash : Option Text
  /-- In a comment that ends with its line. -/
  inLine : Option Text
  /-- In a comment between marks. -/
  inBlock : Option Text
  /-- In a comment between marks, after a star that may close it. -/
  afterStar : Option Text

namespace LeadingSelect

/--
What follows a keyword that stands at the start of a text and ends a word
there.
-/
def afterKeyword? (keyword text : Text) : Option Text :=
  (Text.dropKeyword? keyword text).filter Text.endsWord

/-- What follows blanks and the keyword DISTINCT, or the text itself. -/
def skipDistinct (text : Text) : Text :=
  match text with
  | [] => []
  | character :: _ =>
      if isBlank character then
        (afterKeyword? "distinct".toList (Text.trimStart text)).getD text
      else
        text

/-- What follows the keyword SELECT and a DISTINCT after it. -/
def afterSelect? (text : Text) : Option Text :=
  (afterKeyword? "select".toList text).map skipDistinct

/--
What is left of a text after the leading SELECT, in each state of the scan.
-/
def outlook : Text → Outlook
  | [] => ⟨none, none, none, none, none, none⟩
  | character :: rest =>
      let next := outlook rest
      { outside :=
          if isBlank character || character = '(' then next.outside
          else if character = '-' then next.afterDash
          else if character = '/' then next.afterSlash
          else afterSelect? (character :: rest)
        afterDash := if character = '-' then next.inLine else none
        afterSlash := if character = '*' then next.inBlock else none
        inLine := if character = '\n' then next.outside else next.inLine
        inBlock :=
          if character = '*' then next.afterStar.or next.inBlock
          else next.inBlock
        afterStar := if character = '/' then next.outside else none }

/--
What is left of a statement after its leading SELECT and a DISTINCT after
that.
-/
def rest? (statement : Text) : Option Text :=
  (outlook statement).outside

/-- Whether a text begins with the keyword TOP, after any blanks. -/
def hasTop (text : Text) : Bool :=
  (afterKeyword? "top".toList (Text.trimStart text)).isSome

end LeadingSelect

end SqlAnywhere
