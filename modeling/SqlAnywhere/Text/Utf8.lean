import SqlAnywhere.Text.Basic

/-!
# UTF-8

Bytes stand for characters in UTF-8.  Bytes that stand for none, because they
belong to no sequence, to one that is not finished, or to one longer than
needed, are kept as they are.
-/

namespace SqlAnywhere.Utf8

/--
A piece of a sequence of bytes: a character, or a byte that stands for none.
-/
inductive Piece where
  | character (value : Char)
  | byte (value : UInt8)
deriving DecidableEq

/--
The character of a code point, if it is at least a bound and no surrogate.
-/
def character? (least code : Nat) : Option Char :=
  if least ≤ code ∧ code.isValidChar then some (Char.ofNat code) else none

/-- The six bits that a byte of a sequence holds after the first one. -/
def tail? (byte : UInt8) : Option Nat :=
  if 0x80 ≤ byte ∧ byte ≤ 0xBF then some (byte.toNat % 0x40) else none

/-- The code point of leading bits and the bytes after them. -/
def code? (leading : Nat) : List UInt8 → Option Nat
  | [] => some leading
  | byte :: bytes => do
      let bits ← tail? byte
      code? (leading * 0x40 + bits) bytes

/--
The character of a first byte and as many bytes after it as it asks for, and
their number.
-/
def first? (lead : UInt8) (bytes : List UInt8) : Option (Char × Nat) := do
  let (least, leading, count) ←
    if lead ≤ 0x7F then some (0, lead.toNat, 0)
    else if 0xC0 ≤ lead ∧ lead ≤ 0xDF then some (0x80, lead.toNat % 0x20, 1)
    else if 0xE0 ≤ lead ∧ lead ≤ 0xEF then some (0x800, lead.toNat % 0x10, 2)
    else if 0xF0 ≤ lead ∧ lead ≤ 0xF7 then some (0x10000, lead.toNat % 0x08, 3)
    else none
  if bytes.length < count then
    none
  else
    let code ← code? leading (bytes.take count)
    let character ← character? least code
    return (character, count)

/-- The pieces of a sequence of bytes. -/
def pieces : List UInt8 → List Piece
  | [] => []
  | lead :: bytes =>
      match first? lead bytes with
      | some (character, count) => .character character :: pieces (bytes.drop count)
      | none => .byte lead :: pieces bytes
termination_by bytes => bytes.length
decreasing_by
  · simp only [List.length_drop, List.length_cons]
    omega
  · simp

/--
The text that a sequence of bytes stands for, if each of them belongs to a
character.
-/
def decode? (bytes : List UInt8) : Option Text :=
  (pieces bytes).mapM fun
    | .character value => some value
    | .byte _ => none

end SqlAnywhere.Utf8
