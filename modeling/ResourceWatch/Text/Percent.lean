/-! # Percent-encoding

Text in the form that may stand in a query: letters, digits and four marks stay, and
every other byte of the text is written as a percent sign and two digits in base
sixteen. A list of pairs becomes one text with an equality sign inside each pair and
an ampersand between two.
-/

namespace ResourceWatch.Text.Percent

/-- Whether a byte is written as the character it is. -/
def isPlain (byte : UInt8) : Bool :=
  let c := Char.ofNat byte.toNat
  c.isAlphanum || c = '-' || c = '_' || c = '.' || c = '~'

/-- A digit in base sixteen, in upper case. -/
def hexDigit (n : Nat) : Char :=
  (Nat.digitChar n).toUpper

/-- The form of one byte. -/
def encodeByte (byte : UInt8) : List Char :=
  if isPlain byte then [Char.ofNat byte.toNat]
  else ['%', hexDigit (byte.toNat / 16), hexDigit (byte.toNat % 16)]

/-- The form of a text. -/
def encode (text : String) : List Char :=
  (text.toList.flatMap String.utf8EncodeChar).flatMap encodeByte

/-- The form of a list of pairs. -/
def encodePairs : List (String × String) → List Char
  | [] => []
  | [(key, value)] => encode key ++ '=' :: encode value
  | (key, value) :: pairs => encode key ++ '=' :: encode value ++ '&' :: encodePairs pairs

end ResourceWatch.Text.Percent
