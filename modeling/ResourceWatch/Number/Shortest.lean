import ResourceWatch.Number.Binary64

/-! # Shortest decimal form

The decimal number with the fewest digits that rounds to a given binary number,
and of those the nearest one. It is found by trying one digit, then two, and so on:
if any number of the grid with that many digits rounds to the binary number, one
of its two neighbours on the grid does.
-/

namespace ResourceWatch

/-- A positive decimal number: its digits as a natural number, times a power of
ten. -/
structure Decimal where
  digits : Nat
  exponent : Int
  deriving DecidableEq, Repr

namespace Decimal

/-- The value as a fraction. -/
def fraction (x : Decimal) : Nat × Nat :=
  (x.digits * tenTo x.exponent.toNat, tenTo (-x.exponent).toNat)

def digitCount (n : Nat) : Nat :=
  (Nat.toDigits 10 n).length

/-- The power of ten of the first digit of a positive fraction. -/
def leadingPower (num den : Nat) : Int :=
  let guess : Int := digitCount num - digitCount den
  if num * tenTo (-guess).toNat < den * tenTo guess.toNat then guess - 1 else guess

/-- The number without zeros at the end of its digits. -/
def stripZeros (x : Decimal) : Decimal :=
  let zeros := ((Nat.toDigits 10 x.digits).reverse.takeWhile (· = '0')).length
  ⟨x.digits / tenTo zeros, x.exponent + zeros⟩

end Decimal

namespace Binary64

/-- Whether a decimal number lies in the interval of numbers that round to a
positive binary number. The ends belong to it when the significand is even, and the
lower half is half as wide below a power of two. -/
def roundsTo (x : Binary64) (candidate : Decimal) : Bool :=
  let narrow := x.significand = twoTo (precision - 1) ∧ minExponent < x.exponent
  -- In quarters of the last place both ends of the interval are whole.
  let (unit, unitDen) := scaled 1 (x.exponent - 2)
  let low := (4 * x.significand - if narrow then 1 else 2) * unit
  let high := (4 * x.significand + 2) * unit
  let (num, den) := candidate.fraction
  if x.significand % 2 = 0 then low * den ≤ num * unitDen && num * unitDen ≤ high * den
  else low * den < num * unitDen && num * unitDen < high * den

/-- The neighbours of a positive number on the grid of decimals with some count of
digits, the nearer one first and an even one before an odd one. -/
def neighbours (x : Binary64) (count : Nat) : List Decimal :=
  let (num, den) := x.magnitude
  let exponent := Decimal.leadingPower num den - (count - 1 : Nat)
  let n := num * tenTo (-exponent).toNat
  let d := den * tenTo exponent.toNat
  let below := n / d
  if roundQuotient n d = below then [⟨below, exponent⟩, ⟨below + 1, exponent⟩]
  else [⟨below + 1, exponent⟩, ⟨below, exponent⟩]

/-- Seventeen digits tell all numbers of the format apart. -/
def maxDigits : Nat := 17

/-- The shortest decimal that rounds to a positive number, and the nearest of the
shortest ones. -/
def shortest (x : Binary64) : Decimal :=
  let counts := (List.range maxDigits).map (· + 1)
  let found := counts.findSome? fun count => (x.neighbours count).find? x.roundsTo
  (found.getD ⟨x.significand, x.exponent⟩).stripZeros

end Binary64

/-- How a decimal is written: from which to which power of ten of the first digit
it is positional, and whether a positive exponent has a sign. -/
structure DecimalFormat where
  positionalFrom : Int
  positionalTo : Int
  plusSign : Bool

namespace DecimalFormat

/-- Writes a positive decimal. A positional form has a digit on each side of the
point; a form with an exponent has a point only between digits. -/
def write (format : DecimalFormat) (x : Decimal) : List Char :=
  let digits := Nat.toDigits 10 x.digits
  let power := x.exponent + (digits.length - 1 : Nat)
  if format.positionalFrom ≤ power ∧ power ≤ format.positionalTo then
    if 0 ≤ x.exponent then digits ++ List.replicate x.exponent.toNat '0' ++ ['.', '0']
    else if 0 ≤ power then
      digits.take (power.toNat + 1) ++ '.' :: digits.drop (power.toNat + 1)
    else '0' :: '.' :: List.replicate ((-power).toNat - 1) '0' ++ digits
  else
    let fraction := if digits.length = 1 then [] else '.' :: digits.drop 1
    let sign := if power < 0 then ['-'] else if format.plusSign then ['+'] else []
    digits.take 1 ++ fraction ++ 'e' :: sign ++ Nat.toDigits 10 power.natAbs

/-- Writes a number of 64 bits in its shortest form. -/
def writeBinary64 (format : DecimalFormat) (x : Binary64) : List Char :=
  let sign := if x.negative then ['-'] else []
  sign ++ if x.isZero then ['0', '.', '0'] else format.write x.shortest

end DecimalFormat

end ResourceWatch
