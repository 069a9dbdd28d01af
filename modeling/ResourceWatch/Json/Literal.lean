import ResourceWatch.Json.Value
import ResourceWatch.Number.Word

/-! # Literals of the data format

Numbers and strings as they stand in text. A literal may be well formed and still
denote nothing: a number beyond the largest one, or a string with half of a
surrogate pair. Reading keeps the two faults apart, since a literal in a part of the
text that nobody looks at needs only its form.
-/

namespace ResourceWatch.Json

/-! ## Numbers -/

/-- The parts of a number as it is written. -/
structure NumberLiteral where
  negative : Bool
  whole : List Nat
  fraction : Option (List Nat)
  exponent : Option Int
  deriving DecidableEq, Repr

namespace NumberLiteral

/-- The digits at the start of a text, and the rest. -/
def takeDigits : List Char → List Nat × List Char
  | [] => ([], [])
  | c :: rest =>
    match digit? c with
    | none => ([], c :: rest)
    | some d =>
      let (digits, tail) := takeDigits rest
      (d :: digits, tail)

/-- The number that some digits denote. -/
def ofDigits (digits : List Nat) : Nat :=
  digits.foldl (fun value d => 10 * value + d) 0

/-- Reads the part before the point: one digit, or several of which the first is not
zero. -/
def readWhole (text : List Char) : Option (List Nat × List Char) :=
  match takeDigits text with
  | ([], _) => none
  | (0 :: _ :: _, _) => none
  | (digits, rest) => some (digits, rest)

/-- Reads a point and the digits after it, if there is a point. -/
def readFraction : List Char → Option (Option (List Nat) × List Char)
  | '.' :: rest =>
    match takeDigits rest with
    | ([], _) => none
    | (digits, tail) => some (some digits, tail)
  | text => some (none, text)

/-- Reads the digits of an exponent. -/
def readExponentDigits (negative : Bool) (text : List Char) : Option (Option Int × List Char) :=
  match takeDigits text with
  | ([], _) => none
  | (digits, rest) =>
    let magnitude : Int := ofDigits digits
    some (some (if negative then -magnitude else magnitude), rest)

/-- Reads an exponent, if there is one. -/
def readExponent : List Char → Option (Option Int × List Char)
  | c :: rest =>
    if c = 'e' ∨ c = 'E' then
      match rest with
      | '+' :: digits => readExponentDigits false digits
      | '-' :: digits => readExponentDigits true digits
      | digits => readExponentDigits false digits
    else some (none, c :: rest)
  | [] => some (none, [])

/-- Reads the form of a number. -/
def read (text : List Char) : Option (NumberLiteral × List Char) :=
  let (negative, unsigned) :=
    match text with
    | '-' :: rest => (true, rest)
    | _ => (false, text)
  (readWhole unsigned).bind fun (whole, rest) =>
  (readFraction rest).bind fun (fraction, rest) =>
  (readExponent rest).map fun (exponent, rest) =>
  (⟨negative, whole, fraction, exponent⟩, rest)

/-- Adds digits to a significand as long as it fits a word, and gives the digits
that did not fit. -/
def absorb (significand : Nat) : List Nat → Nat × List Nat
  | [] => (significand, [])
  | d :: digits =>
    if 10 * significand + d < wordLimit then absorb (10 * significand + d) digits
    else (significand, d :: digits)

/-- The largest power of ten that is used as one factor. -/
def maxPower : Nat := 308

/-- The number nearest to a power of ten. -/
def powerOfTen? (power : Nat) : Option Binary64 :=
  Binary64.ofNat? (tenTo power)

/-- Divides by the largest factor some number of times, and stops at zero. -/
def shrink : Nat → Binary64 → Option Binary64
  | 0, x => some x
  | n + 1, x =>
    if x.isZero then some x
    else (powerOfTen? maxPower).bind fun factor => (x.div? factor).bind (shrink n)

/-- A significand times a power of ten, rounded after each step: first the
significand, then every product or quotient. There is none beyond the largest
number. -/
def scale? (significand : Nat) (power : Int) : Option Binary64 :=
  (Binary64.ofNat? significand).bind fun x =>
    if x.isZero then some x
    else if 0 ≤ power then
      if power ≤ maxPower then (powerOfTen? power.toNat).bind x.mul? else none
    else
      -- The factor for the whole power may lie beyond the largest number, so it is split.
      let times := (power.natAbs - 1) / maxPower
      (shrink times x).bind fun y =>
        if y.isZero then some y
        else (powerOfTen? (power.natAbs - times * maxPower)).bind y.div?

/-- A magnitude of a sign as a floating-point number. -/
def float? (negative : Bool) (significand : Nat) (power : Int) : Option Number :=
  (scale? significand power).map fun x => .float (if negative then x.neg else x)

/-- The number that a literal denotes. Without fraction and exponent it is an
integer if it fits, except that a negative zero is a floating-point number. The
digits that do not fit a word count as zeros before the point and as nothing
after it. -/
def value? (literal : NumberLiteral) : Option Number :=
  let (whole, dropped) := absorb 0 literal.whole
  match literal.fraction, literal.exponent, dropped with
  | none, none, [] =>
    -- Negative zero fits every width but has a sign that no integer keeps.
    let signed : Int := if literal.negative then -whole else whole
    if h : WideInt.Fits signed ∧ ¬(literal.negative = true ∧ whole = 0) then
      some (.int ⟨signed, h.1⟩)
    else float? literal.negative whole 0
  | fraction, exponent, _ =>
    let digits := fraction.getD []
    let (significand, lost) := absorb whole digits
    let power : Int := dropped.length - (digits.length - lost.length : Nat) + exponent.getD 0
    float? literal.negative significand power

end NumberLiteral

/-! ## Strings -/

/-- A piece of a string as it is written: a character, or a 16-bit unit given by its
number. -/
inductive Piece where
  | char (c : Char)
  | unit (code : Nat)
  deriving DecidableEq, Repr

namespace Piece

/-- The value of a digit in base sixteen, of either case. -/
def hexDigit? (c : Char) : Option Nat :=
  if c.isDigit then some (c.toNat - '0'.toNat)
  else if 'a' ≤ c ∧ c ≤ 'f' then some (c.toNat - 'a'.toNat + 10)
  else if 'A' ≤ c ∧ c ≤ 'F' then some (c.toNat - 'A'.toNat + 10)
  else none

/-- The number that four digits in base sixteen denote. -/
def hexUnit? (a b c d : Char) : Option Nat := do
  return (((← hexDigit? a) * 16 + (← hexDigit? b)) * 16 + (← hexDigit? c)) * 16 + (← hexDigit? d)

/-- The character that a letter after a backslash stands for. -/
def escaped? : Char → Option Char
  | '"' => some '"'
  | '\\' => some '\\'
  | '/' => some '/'
  | 'b' => some '\x08'
  | 'f' => some '\x0c'
  | 'n' => some '\n'
  | 'r' => some '\r'
  | 't' => some '\t'
  | _ => none

/-- Reads the pieces of a string up to its closing quote. Controls must be
escaped. -/
def readAll : List Char → Option (List Piece × List Char)
  | [] => none
  | '"' :: rest => some ([], rest)
  | '\\' :: 'u' :: a :: b :: c :: d :: rest =>
    (hexUnit? a b c d).bind fun code =>
      (readAll rest).map fun (pieces, tail) => (unit code :: pieces, tail)
  | '\\' :: letter :: rest =>
    (escaped? letter).bind fun c =>
      (readAll rest).map fun (pieces, tail) => (char c :: pieces, tail)
  | c :: rest =>
    if c = '\\' ∨ c.toNat < 0x20 then none
    else (readAll rest).map fun (pieces, tail) => (char c :: pieces, tail)

/-- Whether a unit is the first of a surrogate pair. -/
def isLead (code : Nat) : Bool := 0xD800 ≤ code && code ≤ 0xDBFF

/-- Whether a unit is the second of a surrogate pair. -/
def isTrail (code : Nat) : Bool := 0xDC00 ≤ code && code ≤ 0xDFFF

/-- The characters that pieces denote: none if a surrogate is not in a pair of
neighbouring units. -/
def assemble : List Piece → Option (List Char)
  | [] => some []
  | char c :: rest => (assemble rest).map (c :: ·)
  | unit lead :: unit trail :: rest =>
    if isLead lead then
      if isTrail trail then
        -- Each half of a pair holds ten bits of what lies beyond the first plane.
        (assemble rest).map
          (Char.ofNat (0x10000 + (lead - 0xD800) * 0x400 + (trail - 0xDC00)) :: ·)
      else none
    else if isTrail lead then none
    else (assemble (unit trail :: rest)).map (Char.ofNat lead :: ·)
  | unit code :: rest =>
    if isLead code || isTrail code then none
    else (assemble rest).map (Char.ofNat code :: ·)

end Piece

/-- Reads a string after its opening quote. The text is missing where the string
holds a lone surrogate. -/
def readString (text : List Char) : Option (Option String × List Char) :=
  (Piece.readAll text).map fun (pieces, rest) =>
    ((Piece.assemble pieces).map String.ofList, rest)

end ResourceWatch.Json
