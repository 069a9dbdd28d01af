/-! # Binary floating-point numbers of 64 bits

The finite numbers of the format, as a sign, a significand and an exponent. Two
numbers of the type are equal exactly when they are the same number of the format,
and arithmetic is exact arithmetic on natural numbers followed by one rounding to
the nearest number, a tie going to the even significand.
-/

namespace ResourceWatch

/-- A power of the base in which numbers are held. -/
def twoTo (exponent : Nat) : Nat := Nat.pow 2 exponent

/-- A power of the base in which numbers are written. -/
def tenTo (exponent : Nat) : Nat := Nat.pow 10 exponent

/-- The exponent of the smallest positive number. -/
def Binary64.minExponent : Int := -1074

/-- The exponent of the largest numbers. -/
def Binary64.maxExponent : Int := 971

def Binary64.precision : Nat := 53

/-- A significand uses all its bits unless the exponent is the smallest one, so that
every magnitude has one form. -/
def Binary64.Canonical (significand : Nat) (exponent : Int) : Prop :=
  significand < twoTo precision ∧ minExponent ≤ exponent ∧ exponent ≤ maxExponent ∧
    (exponent = minExponent ∨ twoTo (precision - 1) ≤ significand)

instance (significand : Nat) (exponent : Int) :
    Decidable (Binary64.Canonical significand exponent) := by
  unfold Binary64.Canonical; infer_instance

/-- A finite number of the format. Its magnitude is the significand times two to
the exponent. -/
@[ext]
structure Binary64 where
  negative : Bool
  significand : Nat
  exponent : Int
  canonical : Binary64.Canonical significand exponent
  deriving DecidableEq, Repr

namespace Binary64

/-- The zero of a sign. -/
def zero (negative : Bool) : Binary64 :=
  ⟨negative, 0, minExponent, by decide⟩

instance : Inhabited Binary64 := ⟨zero false⟩

/-- Whether a number is zero, of either sign. -/
def isZero (x : Binary64) : Bool := x.significand = 0

/-- Equality of values: the two zeros are the same value. -/
def sameValue (x y : Binary64) : Bool :=
  (x.isZero && y.isZero) || x = y

/-- The number with the opposite sign. -/
def neg (x : Binary64) : Binary64 :=
  { x with negative := !x.negative }

/-- The quotient of two natural numbers rounded to the nearest, a tie going to the
even one. -/
def roundQuotient (num den : Nat) : Nat :=
  let quotient := num / den
  let twice := 2 * (num % den)
  if twice < den then quotient
  else if den < twice then quotient + 1
  else if quotient % 2 = 0 then quotient else quotient + 1

/-- A natural number times a power of two, as a fraction. -/
def scaled (num : Nat) (exponent : Int) : Nat × Nat :=
  (num * twoTo exponent.toNat, twoTo (-exponent).toNat)

/-- The exponent that leaves a quotient with all bits of a significand before the
point, or the smallest exponent. -/
def exponentOf (num den : Nat) : Int :=
  -- The difference of the logarithms is right or one too large.
  let guess : Int := Nat.log2 num - Nat.log2 den - (precision - 1)
  let (n, d) := scaled num (-guess)
  max minExponent (if n < twoTo (precision - 1) * (d * den) then guess - 1 else guess)

/-- The number nearest to a quotient, or nothing when that is beyond the largest
number. -/
def ofQuotient? (negative : Bool) (num den : Nat) : Option Binary64 :=
  let exponent := exponentOf num den
  let (n, d) := scaled num (-exponent)
  let rounded := roundQuotient n (d * den)
  -- Rounding up can carry into one bit more than a significand has.
  let (m, e) :=
    if rounded = twoTo precision then (twoTo (precision - 1), exponent + 1)
    else (rounded, exponent)
  if h : Canonical m e then some ⟨negative, m, e, h⟩ else none

/-- The number nearest to a natural number. -/
def ofNat? (n : Nat) : Option Binary64 :=
  if n = 0 then some (zero false) else ofQuotient? false n 1

/-- The rounded product of two numbers. -/
def mul? (x y : Binary64) : Option Binary64 :=
  let negative := x.negative != y.negative
  if x.isZero || y.isZero then some (zero negative)
  else
    let (n, d) := scaled (x.significand * y.significand) (x.exponent + y.exponent)
    ofQuotient? negative n d

/-- The rounded quotient of two numbers, of which the second is not zero. -/
def div? (x y : Binary64) : Option Binary64 :=
  let negative := x.negative != y.negative
  if x.isZero then some (zero negative)
  else
    let (n, d) := scaled x.significand (x.exponent - y.exponent)
    ofQuotient? negative n (d * y.significand)

/-- The magnitude as a fraction. -/
def magnitude (x : Binary64) : Nat × Nat :=
  scaled x.significand x.exponent

end Binary64

end ResourceWatch
