import SqlAnywhere.Decimal.Reader
import SqlAnywhere.Toml.Lexeme

/-!
# The numbers of a document

Digits may have underscores between them.  Decimal numbers have no leading
zeros before the point and may have a sign; integers are also written in the
bases sixteen, eight and two.  An integer has 64 bits, and a floating-point
number written in digits is finite.
-/

namespace SqlAnywhere.Toml

/-- What may stand before the digits of a number, and how they may begin. -/
structure DigitRule where
  base : Nat
  signed : Bool
  leadingZeros : Bool

/-- Where a run of digits stands. -/
inductive DigitState where
  | start
  | afterLeadingZero
  | afterDigit
  | afterUnderscore (leadingZero : Bool)

/-- Whether a run of digits may end in a state. -/
def DigitState.mayEnd : DigitState → Bool
  | .start | .afterUnderscore _ => false
  | .afterLeadingZero | .afterDigit => true

/-- Whether the first digit of a run was a zero. -/
def DigitState.leadingZero : DigitState → Bool
  | .afterLeadingZero => true
  | .afterUnderscore leadingZero => leadingZero
  | .start | .afterDigit => false

/-- A run of digits without the underscores in it, and what follows it. -/
def digitRun? (rule : DigitRule) (state : DigitState) :
    Text → Option (Text × Text)
  | [] => if state.mayEnd then some ([], []) else none
  | character :: rest =>
      let isDigit := (hexDigit? character).any (· < rule.base)
      match state, character with
      | .start, '0' =>
          push? (some '0') (digitRun? rule .afterLeadingZero rest)
      | .start, '_' => none
      | state, character =>
          if isDigit then
            if state.leadingZero && !rule.leadingZeros then
              none
            else
              let next :=
                if state.leadingZero then DigitState.afterLeadingZero
                else DigitState.afterDigit
              push? (some character) (digitRun? rule next rest)
          else if character = '_' && state.mayEnd then
            digitRun? rule (.afterUnderscore state.leadingZero) rest
          else if state.mayEnd then
            some ([], character :: rest)
          else
            none

/--
A run of digits after the sign that the rule allows; a plus sign is dropped.
-/
def signedRun? (rule : DigitRule) (word : Text) : Option (Text × Text) :=
  match rule.signed, word with
  | true, '-' :: digits => push? (some '-') (digitRun? rule .start digits)
  | true, '+' :: digits => digitRun? rule .start digits
  | _, digits => digitRun? rule .start digits

/-- An integer of 64 bits in digits after a minus sign or none. -/
def integerOf? (base : Nat) (digits : Text) : Option Setting := do
  let value ←
    match digits with
    | '-' :: digits => (digitsValue? base digits).map fun value => -(value : Int)
    | digits => (digitsValue? base digits).map Int.ofNat
  if Int64.minValue.toInt ≤ value ∧ value ≤ Int64.maxValue.toInt then
    some (.integer (.ofInt value))
  else
    none

/-- An integer in a base. -/
def integer? (rule : DigitRule) (word : Text) : Option Setting := do
  let (digits, rest) ← signedRun? rule word
  if rest.isEmpty then integerOf? rule.base digits else none

/-- Decimal digits before a point. -/
def wholeRule : DigitRule := ⟨10, true, false⟩

/-- Decimal digits after a point. -/
def fractionRule : DigitRule := ⟨10, false, true⟩

/-- Decimal digits of an exponent. -/
def exponentRule : DigitRule := ⟨10, true, true⟩

/--
The exponent that the end of a word begins, and what follows the word; a plus
sign ends the word and does not end the exponent.
-/
def exponent? (word rest : Text) : Option (Text × Text) := do
  match word with
  | [] => return ([], rest)
  | mark :: digits =>
      if mark.toLower ≠ 'e' then
        none
      else if !digits.isEmpty then
        let (exponent, left) ← signedRun? exponentRule digits
        if left.isEmpty then some ('e' :: exponent, rest) else none
      else
        match rest with
        | '+' :: rest =>
            let (exponent, left) ← digitRun? fractionRule .start (rest.takeWhile isBare)
            if left.isEmpty then
              some ('e' :: exponent, rest.dropWhile isBare)
            else
              none
        | _ => none

/--
A floating-point number of which a word is the part before the point, and
what follows it.
-/
def float? (word : Text) (fraction : Option Text) (rest : Text) :
    Option (Setting × Text) := do
  let (whole, left) ← signedRun? wholeRule word
  let (digits, left) ←
    match fraction with
    | none => some (whole, left)
    | some fraction =>
        if left.isEmpty then do
          let (places, left) ← signedRun? fractionRule fraction
          some (whole ++ '.' :: places, left)
        else
          none
  let (exponent, rest) ← exponent? left rest
  let number ← Decimal.readFloat? (digits ++ exponent)
  if number.isFinite then some (.float number, rest) else none

/-- The numbers that are words. -/
def numberWord? (word : Text) : Option Float :=
  if word = "inf".toList then Decimal.readFloat? "inf".toList
  else if word = "-inf".toList then Decimal.readFloat? "-inf".toList
  else if word = "nan".toList ∨ word = "-nan".toList then
    Decimal.readFloat? "nan".toList
  else none

/-- A number of which a word is the first part, and what follows it. -/
def number? (word rest : Text) : Option (Setting × Text) :=
  match word, rest with
  | '0' :: 'x' :: digits, rest =>
      (integer? ⟨16, false, true⟩ digits).map (·, rest)
  | '0' :: 'o' :: digits, rest =>
      (integer? ⟨8, false, true⟩ digits).map (·, rest)
  | '0' :: 'b' :: digits, rest =>
      (integer? ⟨2, false, true⟩ digits).map (·, rest)
  | word, rest =>
      if word.contains 'e' || word.contains 'E' then
        float? word none rest
      else
        match rest with
        | '.' :: fraction =>
            float? word (some (fraction.takeWhile isBare))
              (fraction.dropWhile isBare)
        | rest =>
            match numberWord? word with
            | some number => some (.float number, rest)
            | none => (integer? wholeRule word).map (·, rest)

/-- Whether a word may be a number. -/
def isNumberWord (word : Text) : Bool :=
  word = "inf".toList || word = "nan".toList ||
    match word with
    | [] => false
    | first :: _ => first = '-' || first.isDigit

/-- A truth value or a number, and what follows it. -/
def word? (text : Text) : Option (Setting × Text) :=
  let word := text.takeWhile isBare
  let rest := text.dropWhile isBare
  if word = "true".toList then some (.boolean true, rest)
  else if word = "false".toList then some (.boolean false, rest)
  else if isNumberWord word then number? word rest
  else none

end SqlAnywhere.Toml
