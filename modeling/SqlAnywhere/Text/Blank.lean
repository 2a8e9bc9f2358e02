import SqlAnywhere.Text.Basic

/-!
# Blank characters

Blanks are the characters with the Unicode property `White_Space`.  Names and
values are trimmed of them, and words are what stands between them.
-/

namespace SqlAnywhere

/-- The characters with the property `White_Space`. -/
def isBlank (character : Char) : Bool :=
  let code := character.toNat
  code == 0x20 || (0x09 ≤ code && code ≤ 0x0D) || code == 0x85 ||
    code == 0xA0 || code == 0x1680 || (0x2000 ≤ code && code ≤ 0x200A) ||
    code == 0x2028 || code == 0x2029 || code == 0x202F ||
    code == 0x205F || code == 0x3000

/-- No digit is a blank. -/
theorem not_isBlank_of_isDigit {character : Char}
    (digit : character.isDigit) : ¬ isBlank character := by
  have low : 48 ≤ character.toNat := (Char.isDigit_iff_toNat.1 digit).1
  have high : character.toNat ≤ 57 := (Char.isDigit_iff_toNat.1 digit).2
  simp [isBlank]
  omega

namespace Text

/-- A text without the blanks at its start. -/
def trimStart (text : Text) : Text :=
  text.dropWhile isBlank

/-- A text without the blanks at its end. -/
def trimEnd (text : Text) : Text :=
  (text.reverse.dropWhile isBlank).reverse

/-- A text without the blanks at its two ends. -/
def trim (text : Text) : Text :=
  trimEnd (trimStart text)

/-- The maximal stretches of a text that hold no blank. -/
def words (text : Text) : List Text :=
  (text.splitOnP isBlank).filter (!·.isEmpty)

end Text

end SqlAnywhere
