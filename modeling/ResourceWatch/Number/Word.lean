/-! # Reading 64-bit words

Decimal text as an unsigned number of 64 bits. The reader names the first fault it
meets from the left, so a text with two faults has one error.
-/

namespace ResourceWatch

/-- Why a text is no unsigned number of 64 bits. -/
inductive WordError where
  | empty
  | invalidDigit
  | tooLarge
  deriving DecidableEq, Repr

namespace WordError

def message : WordError → String
  | empty => "cannot parse integer from empty string"
  | invalidDigit => "invalid digit found in string"
  | tooLarge => "number too large to fit in target type"

end WordError

/-- The value of a decimal digit. Only the ten ASCII digits have one. -/
def digit? (c : Char) : Option Nat :=
  if c.isDigit then some (c.toNat - '0'.toNat) else none

/-- The number of words, which no word reaches. -/
def wordLimit : Nat := 18446744073709551616

/-- Reads digits after those that make up `value`. A character that is no digit is
reported before the digits that follow it are looked at. -/
def readWordDigits (value : Nat) : List Char → Except WordError Nat
  | [] => .ok value
  | c :: rest =>
    match digit? c with
    | none => .error .invalidDigit
    | some d =>
      if 10 * value + d < wordLimit then readWordDigits (10 * value + d) rest
      else .error .tooLarge

/-- Reads a word: one or more decimal digits, after a plus sign or nothing. -/
def readWord (text : List Char) : Except WordError UInt64 :=
  match text with
  | [] => .error .empty
  | ['+'] => .error .invalidDigit
  | '+' :: digits => UInt64.ofNat <$> readWordDigits 0 digits
  | digits => UInt64.ofNat <$> readWordDigits 0 digits

end ResourceWatch
