import SqlAnywhere.Text.Basic

/-!
# Numerals

Integers are written in decimal digits with a minus sign where one is needed.
They are read from an optional sign and at least one digit; a value outside
the range of its type is not read.
-/

namespace SqlAnywhere.Numeral

/-- A natural number in decimal digits. -/
def ofNat (number : Nat) : Text :=
  Nat.toDigits 10 number

/-- An integer in decimal digits, after a minus sign if it is negative. -/
def ofInt : Int → Text
  | .ofNat number => ofNat number
  | .negSucc number => '-' :: ofNat (number + 1)

/-- The number that one or more digits denote. -/
def readNat? (text : Text) : Option Nat :=
  if text.isEmpty || !text.all Char.isDigit then
    none
  else
    some (Nat.ofDigitChars 10 text 0)

/-- The integer that an optional sign and digits denote. -/
def readInt? : Text → Option Int
  | '-' :: digits => (readNat? digits).map fun number => -(number : Int)
  | '+' :: digits => (readNat? digits).map Int.ofNat
  | digits => (readNat? digits).map Int.ofNat

/--
The number that digits after an optional plus sign denote, if it is below a
bound.
-/
def readBelow? (bound : Nat) (text : Text) : Option Nat :=
  let digits :=
    match text with
    | '+' :: digits => digits
    | digits => digits
  (readNat? digits).filter (· < bound)

/-- A number of 32 bits. -/
def readUInt32? (text : Text) : Option UInt32 :=
  (readBelow? UInt32.size text).map UInt32.ofNat

/-- A number of 64 bits. -/
def readUInt64? (text : Text) : Option UInt64 :=
  (readBelow? UInt64.size text).map UInt64.ofNat

/-- An integer of 64 bits. -/
def readInt64? (text : Text) : Option Int64 :=
  (readInt? text).bind fun number =>
    if Int64.minValue.toInt ≤ number ∧ number ≤ Int64.maxValue.toInt then
      some (Int64.ofInt number)
    else
      none

/-- An integer of 64 bits in decimal digits. -/
def ofInt64 (number : Int64) : Text :=
  ofInt number.toInt

theorem isDigit_of_mem_ofNat {number : Nat} {character : Char}
    (member : character ∈ ofNat number) : character.isDigit :=
  Nat.isDigit_of_mem_toDigits (by decide) (by decide) member

theorem ofNat_ne_nil (number : Nat) : ofNat number ≠ [] :=
  Nat.toDigits_ne_nil

/-- Reading gives back the number that was written. -/
@[simp]
theorem readNat?_ofNat (number : Nat) :
    readNat? (ofNat number) = some number := by
  have digits : (ofNat number).all Char.isDigit = true :=
    List.all_eq_true.2 fun _ member => isDigit_of_mem_ofNat member
  have present : (ofNat number).isEmpty = false := by
    simpa using ofNat_ne_nil number
  simp only [readNat?, digits, present, Bool.not_true, Bool.or_self,
    Bool.false_eq_true, if_false]
  exact congrArg some Nat.ofDigitChars_ten_toDigits

/-- Reading gives back the integer that was written. -/
@[simp]
theorem readInt?_ofInt (number : Int) :
    readInt? (ofInt number) = some number := by
  cases number with
  | negSucc magnitude =>
      simp only [ofInt, readInt?, readNat?_ofNat]
      rfl
  | ofNat magnitude =>
      simp only [ofInt]
      have first : ∀ character ∈ ofNat magnitude, character.isDigit :=
        fun _ member => isDigit_of_mem_ofNat member
      unfold readInt?
      split
      · next shape =>
          rw [shape] at first
          exact absurd (first '-' (by simp)) (by decide)
      · next shape =>
          rw [shape] at first
          exact absurd (first '+' (by simp)) (by decide)
      · simp

/-- Reading gives back the 64-bit integer that was written. -/
@[simp]
theorem readInt64?_ofInt64 (number : Int64) :
    readInt64? (ofInt64 number) = some number := by
  have low := Int64.minValue_le_toInt number
  have high := Int64.toInt_le number
  simp [readInt64?, ofInt64]
  exact ⟨low, by simpa using high⟩

end SqlAnywhere.Numeral
