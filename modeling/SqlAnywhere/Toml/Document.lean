import SqlAnywhere.Toml.Number

/-!
# Documents

A line of a TOML document holds the header of a table, a key with its setting,
a comment, or nothing.  Settings are strings, numbers, truth values, lists
over several lines, and tables within one line.
-/

namespace SqlAnywhere.Toml

mutual

/--
A setting, and what follows it; each step into a list or a table and along it
takes one unit of fuel.
-/
def setting? : Nat → Text → Option (Setting × Text)
  | 0, _ => none
  | fuel + 1, text =>
      match text with
      | '"' :: rest => (basicString? rest).map fun read => (.text read.1, read.2)
      | '\'' :: rest =>
          (literalString? rest).map fun read => (.text read.1, read.2)
      | '[' :: rest =>
          (items? fuel (skipLines false rest)).map fun read =>
            (.list read.1, read.2)
      | '\x7b' :: rest =>
          match skipSpace rest with
          | '\x7d' :: rest => some (.table [], rest)
          | rest =>
              (members? fuel .empty rest).map fun read =>
                (.table read.1.root, read.2)
      | '+' :: rest => number? (rest.takeWhile isBare) (rest.dropWhile isBare)
      | text => word? text

/-- The items of a list up to its closing bracket, and what follows that. -/
def items? : Nat → Text → Option (List Setting × Text)
  | 0, _ => none
  | fuel + 1, text =>
      match text with
      | ']' :: rest => some ([], rest)
      | text => do
          let (item, rest) ← setting? fuel text
          match skipLines false rest with
          | ']' :: rest => return ([item], rest)
          | ',' :: rest =>
              let (items, rest) ← items? fuel (skipLines false rest)
              return (item :: items, rest)
          | _ => none

/-- The members of a table up to its closing brace, and what follows that. -/
def members? : Nat → Outline → Text → Option (Outline × Text)
  | 0, _, _ => none
  | fuel + 1, outline, text => do
      let (key, rest) ← key? text.length text
      match rest with
      | '=' :: rest =>
          let (setting, rest) ← setting? fuel (skipSpace rest)
          let outline ← outline.assign? key setting
          match skipSpace rest with
          | '\x7d' :: rest => return (outline, rest)
          | ',' :: rest => members? fuel outline (skipSpace rest)
          | _ => none
      | _ => none

end

/--
The outline after a line with a header, which is read from its opening
bracket on, and what follows the line.
-/
def headerLine? (outline : Outline) (text : Text) : Option (Outline × Text) := do
  let (path, rest) ← key? text.length (skipSpace text)
  match rest with
  | ']' :: rest =>
      let rest ← endLine? rest
      let outline ← outline.declare? path
      return (outline, rest)
  | _ => none

/--
The outline after a line with a key and its setting, and what follows the
line.
-/
def settingLine? (outline : Outline) (text : Text) :
    Option (Outline × Text) := do
  let (key, rest) ← key? text.length text
  match rest with
  | '=' :: rest =>
      let (setting, rest) ← setting? (2 * rest.length + 2) (skipSpace rest)
      let rest ← endLine? rest
      let outline ← outline.assign? key setting
      return (outline, rest)
  | _ => none

/-- The outline after the lines of a text; each line takes one unit of fuel. -/
def lines? : Nat → Outline → Text → Option Outline
  | 0, _, _ => none
  | fuel + 1, outline, text =>
      if text.isEmpty then
        some outline
      else
        match endLine? text with
        | some rest => lines? fuel outline rest
        | none => do
            let (outline, rest) ←
              match skipSpace text with
              | '[' :: rest => headerLine? outline rest
              | line => settingLine? outline line
            lines? fuel outline rest

/-- A text without a mark for its byte order. -/
def skipByteOrderMark : Text → Text
  | '\ufeff' :: rest => rest
  | text => text

/-- The settings of a document. -/
def read? (text : Text) : Option Members :=
  let lines := skipByteOrderMark text
  (lines? (lines.length + 1) .empty lines).map Outline.root

end SqlAnywhere.Toml
