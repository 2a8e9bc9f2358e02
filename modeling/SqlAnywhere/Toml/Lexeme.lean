import SqlAnywhere.Toml.Outline

/-!
# The lexemes of a document

A line of a TOML document holds spaces, comments, strings and keys.  A basic
string stands between double quotes and has escapes, a literal string stands
between single quotes and has none.  Keys are bare or quoted, with dots
between their parts.  A reader gives what it read and what follows that.
-/

namespace SqlAnywhere.Toml

/-- Characters that may stand between the parts of a line. -/
def isSpace (character : Char) : Bool :=
  character = ' ' || character = '\t'

/-- Characters that a comment may hold. -/
def isCommentCharacter (character : Char) : Bool :=
  character = '\t' || 0x20 ≤ character.toNat

/-- Characters that a string may hold as they are. -/
def isStringCharacter (character : Char) : Bool :=
  isCommentCharacter character && character.toNat != 0x7F

/-- Characters of bare keys, numbers and words. -/
def isBare (character : Char) : Bool :=
  character.isAlphanum || character = '-' || character = '_'

/-- A text without the spaces at its start. -/
def skipSpace (text : Text) : Text :=
  text.dropWhile isSpace

/-- A text without a comment at its start. -/
def skipComment : Text → Text
  | '#' :: rest => rest.dropWhile isCommentCharacter
  | text => text

/-- What follows a line of which nothing but spaces and a comment is left. -/
def endLine? (text : Text) : Option Text :=
  match skipComment (skipSpace text) with
  | [] => some []
  | '\n' :: rest => some rest
  | '\r' :: '\n' :: rest => some rest
  | _ => none

/-- A text without the spaces, line ends and comments at its start. -/
def skipLines (inComment : Bool) : Text → Text
  | [] => []
  | '\n' :: rest => skipLines false rest
  | '\r' :: '\n' :: rest => skipLines false rest
  | character :: rest =>
      if inComment && isCommentCharacter character then
        skipLines true rest
      else if !inComment && isSpace character then
        skipLines false rest
      else if !inComment && character = '#' then
        skipLines true rest
      else
        character :: rest

/-- The value of a hexadecimal digit. -/
def hexDigit? (character : Char) : Option Nat :=
  if character.isDigit then
    some (character.toNat - '0'.toNat)
  else if 'a' ≤ character.toLower ∧ character.toLower ≤ 'f' then
    some (character.toLower.toNat - 'a'.toNat + 10)
  else
    none

/-- The number of digits in a base. -/
def digitsValue? (base : Nat) (digits : Text) : Option Nat :=
  digits.foldlM
    (fun value character => do
      let digit ← hexDigit? character
      if digit < base then some (value * base + digit) else none)
    0

/-- The character of a code point in hexadecimal digits. -/
def escapedCode? (digits : Text) : Option Char := do
  let code ← digitsValue? 16 digits
  if code.isValidChar then some (Char.ofNat code) else none

/-- The character of an escape of one letter. -/
def escapedLetter? : Char → Option Char
  | '"' => some '"'
  | '\\' => some '\\'
  | 'b' => some '\u0008'
  | 'f' => some '\u000c'
  | 'n' => some '\n'
  | 'r' => some '\r'
  | 't' => some '\t'
  | _ => none

/-- A read text with a character before it. -/
def push? (character : Option Char) (read : Option (Text × Text)) :
    Option (Text × Text) := do
  let character ← character
  let (text, rest) ← read
  return (character :: text, rest)

/--
A string after its opening double quote, with its escapes, and what follows
it.
-/
def basicString? : Text → Option (Text × Text)
  | '"' :: rest => some ([], rest)
  | '\\' :: 'u' :: a :: b :: c :: d :: rest =>
      push? (escapedCode? [a, b, c, d]) (basicString? rest)
  | '\\' :: 'U' :: a :: b :: c :: d :: e :: f :: g :: h :: rest =>
      push? (escapedCode? [a, b, c, d, e, f, g, h]) (basicString? rest)
  | '\\' :: letter :: rest =>
      push? (escapedLetter? letter) (basicString? rest)
  | character :: rest =>
      if isStringCharacter character then
        push? (some character) (basicString? rest)
      else
        none
  | [] => none

/-- A string after its opening single quote, and what follows it. -/
def literalString? : Text → Option (Text × Text)
  | '\'' :: rest => some ([], rest)
  | character :: rest =>
      if isStringCharacter character then
        push? (some character) (literalString? rest)
      else
        none
  | [] => none

/-- One part of a key, and what follows it. -/
def keyPart? : Text → Option (Text × Text)
  | '"' :: rest => basicString? rest
  | '\'' :: rest => literalString? rest
  | text =>
      let key := text.takeWhile isBare
      if key.isEmpty then none else some (key, text.dropWhile isBare)

/--
A key with dots between its parts, and what follows it and the spaces after
it; each part takes one unit of fuel.
-/
def key? : Nat → Text → Option (KeyPath × Text)
  | 0, _ => none
  | fuel + 1, text => do
      let (part, rest) ← keyPart? text
      match skipSpace rest with
      | '.' :: rest =>
          let (parts, rest) ← key? fuel (skipSpace rest)
          return (part :: parts, rest)
      | rest => return ([part], rest)

end SqlAnywhere.Toml
