/-! # Blank characters

The characters with the Unicode property `White_Space`, and the removal of blank
text from both ends of a text. Every reader of the library that allows white
space around its input takes it from here, so that all of them allow the same.
-/

namespace ResourceWatch.Text

/-- The code points of the property `White_Space`, as closed ranges in ascending
order. Zero-width characters are not among them. -/
def blankRanges : List (Nat × Nat) :=
  [(0x9, 0xD), (0x20, 0x20), (0x85, 0x85), (0xA0, 0xA0), (0x1680, 0x1680),
   (0x2000, 0x200A), (0x2028, 0x2029), (0x202F, 0x202F), (0x205F, 0x205F),
   (0x3000, 0x3000)]

/-- Whether a code point lies in one of some closed ranges. -/
def inRanges (ranges : List (Nat × Nat)) (code : Nat) : Bool :=
  ranges.any fun range => range.1 ≤ code && code ≤ range.2

/-- Whether a character is white space. -/
def isBlank (c : Char) : Bool :=
  inRanges blankRanges c.toNat

/-- The text without the blanks at its start. -/
def trimStart (text : List Char) : List Char :=
  text.dropWhile isBlank

/-- The text without the blanks at its end. -/
def trimEnd (text : List Char) : List Char :=
  (text.reverse.dropWhile isBlank).reverse

/-- The text without the blanks at either end. Blanks between other characters
stay. -/
def trim (text : List Char) : List Char :=
  trimEnd (trimStart text)

end ResourceWatch.Text
