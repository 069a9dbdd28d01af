/-! # Digests of bytes

What the opening of a socket needs to prove that the server understood it: the secure
hash of 160 bits, and the form of bytes as text in base 64.
-/

namespace ResourceWatch.Socket

/-! ## The secure hash -/

/-- The five words of a hash. -/
structure HashState where
  a : UInt32
  b : UInt32
  c : UInt32
  d : UInt32
  e : UInt32
  deriving DecidableEq, Repr

namespace HashState

/-- The hash before the first block. -/
def initial : HashState :=
  ⟨0x67452301, 0xEFCDAB89, 0x98BADCFE, 0x10325476, 0xC3D2E1F0⟩

/-- The sum of two hashes, word by word. -/
def add (x y : HashState) : HashState :=
  ⟨x.a + y.a, x.b + y.b, x.c + y.c, x.d + y.d, x.e + y.e⟩

/-- A word with its bits turned to the left. -/
def rotate (word amount : UInt32) : UInt32 :=
  (word <<< amount) ||| (word >>> (32 - amount))

/-- What a round makes of the three words in the middle, with the constant of the
round. -/
def mix (round : Nat) (b c d : UInt32) : UInt32 :=
  if round < 20 then ((b &&& c) ||| (~~~b &&& d)) + 0x5A827999
  else if round < 40 then (b ^^^ c ^^^ d) + 0x6ED9EBA1
  else if round < 60 then ((b &&& c) ||| (b &&& d) ||| (c &&& d)) + 0x8F1BBCDC
  else (b ^^^ c ^^^ d) + 0xCA62C1D6

/-- One round with its word of the block. -/
def step (state : HashState) (round : Nat) (word : UInt32) : HashState :=
  ⟨rotate state.a 5 + mix round state.b state.c state.d + state.e + word,
    state.a, rotate state.b 30, state.c, state.d⟩

/-- The rounds for a list of words, counted from some round. -/
def rounds (state : HashState) (round : Nat) : List UInt32 → HashState
  | [] => state
  | word :: words => (state.step round word).rounds (round + 1) words

/-- The hash as bytes. -/
def bytes (state : HashState) : List UInt8 :=
  [state.a, state.b, state.c, state.d, state.e].flatMap fun word =>
    [24, 16, 8, 0].map fun shift => (word >>> shift).toUInt8

end HashState

/-- The words of bytes, four bytes to a word. -/
def wordsOf : List UInt8 → List UInt32
  | a :: b :: c :: d :: rest =>
    ((a.toUInt32 <<< 24) ||| (b.toUInt32 <<< 16) ||| (c.toUInt32 <<< 8) ||| d.toUInt32) ::
      wordsOf rest
  | _ => []

/-- Some number of words more, each from four of the sixteen words before it. The
newest word comes first. -/
def expand : Nat → List UInt32 → List UInt32
  | 0, words => words
  | count + 1, words =>
    let word := (words.getD 2 0) ^^^ (words.getD 7 0) ^^^ (words.getD 13 0) ^^^ (words.getD 15 0)
    expand count (HashState.rotate word 1 :: words)

/-- The hash after one block of sixteen words. -/
def hashBlock (state : HashState) (block : List UInt32) : HashState :=
  state.add (state.rounds 0 (expand 64 block.reverse).reverse)

/-- The hash after some number of blocks. -/
def hashBlocks : Nat → HashState → List UInt32 → HashState
  | 0, state, _ => state
  | count + 1, state, words => hashBlocks count (hashBlock state (words.take 16)) (words.drop 16)

/-- Bytes filled up to whole blocks: a bit that is set, zeros, and the number of
bits. -/
def padBlocks (message : List UInt8) : List UInt8 :=
  let zeros : List UInt8 := List.replicate ((119 - message.length % 64) % 64) 0
  let bits := 8 * message.length
  let size := [56, 48, 40, 32, 24, 16, 8, 0].map fun shift => UInt8.ofNat (bits >>> shift)
  message ++ [0x80] ++ zeros ++ size

/-- The secure hash of bytes. -/
def secureHash (message : List UInt8) : List UInt8 :=
  let padded := padBlocks message
  (hashBlocks (padded.length / 64) .initial (wordsOf padded)).bytes

/-! ## Base 64 -/

/-- The character for six bits. -/
def sextet (n : Nat) : Char :=
  if n < 26 then Char.ofNat ('A'.toNat + n)
  else if n < 52 then Char.ofNat ('a'.toNat + (n - 26))
  else if n < 62 then Char.ofNat ('0'.toNat + (n - 52))
  else if n = 62 then '+'
  else '/'

/-- The characters for three bytes. -/
def quartet (a b c : UInt8) : List Char :=
  let n := (a.toNat * 256 + b.toNat) * 256 + c.toNat
  [n / 262144, n / 4096 % 64, n / 64 % 64, n % 64].map sextet

/-- The form of bytes in base 64. Equality signs fill up the last group. -/
def base64 : List UInt8 → List Char
  | [] => []
  | [a] => (quartet a 0 0).take 2 ++ ['=', '=']
  | [a, b] => (quartet a b 0).take 3 ++ ['=']
  | a :: b :: c :: rest => quartet a b c ++ base64 rest

end ResourceWatch.Socket
