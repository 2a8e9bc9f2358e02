import SqlAnywhere.Text.Hidden

/-!
# Texts in messages

A message quotes a text between double quotes.  Quotes, backslashes and the
usual controls are written as two characters, hidden characters by their code
point, and all others as themselves.
-/

namespace SqlAnywhere

/-- A character by its code point, in lower-case hexadecimal digits. -/
def codePointEscape (character : Char) : Text :=
  "\\u\x7b".toList ++ Nat.toDigits 16 character.toNat ++ "\x7d".toList

/-- A character as it stands in a quoted text. -/
def escapeCharacter (character : Char) : Text :=
  match character with
  | '\u0000' => "\\0".toList
  | '\t' => "\\t".toList
  | '\n' => "\\n".toList
  | '\r' => "\\r".toList
  | '"' => "\\\"".toList
  | '\\' => "\\\\".toList
  | _ =>
      if isHidden character then codePointEscape character else [character]

namespace Text

/-- The characters of a text as they stand between the quotes of a message. -/
def escaped (text : Text) : Text :=
  text.flatMap escapeCharacter

/-- A text as a message quotes it. -/
def quoted (text : Text) : Text :=
  "\"".toList ++ escaped text ++ "\"".toList

end Text

end SqlAnywhere
