import ResourceWatch.Text.Printable

/-! # Quoted text

Text as messages quote it: between double quotes, with a backslash before a
quote or a backslash, short names for the common controls, and the number of any
other character that cannot be shown. A single quote stays as it is.
-/

namespace ResourceWatch.Text

/-- The digits of a number in base sixteen, in lower case and without leading
zeros. -/
def hexDigits (n : Nat) : List Char :=
  Nat.toDigits 16 n

/-- The form of one character inside a quoted text. -/
def quotedChar (c : Char) : List Char :=
  if c = '\x00' then ['\\', '0']
  else if c = '\t' then ['\\', 't']
  else if c = '\n' then ['\\', 'n']
  else if c = '\r' then ['\\', 'r']
  else if c = '"' then ['\\', '"']
  else if c = '\\' then ['\\', '\\']
  else if isShown c then [c]
  else '\\' :: 'u' :: '\x7b' :: hexDigits c.toNat ++ ['\x7d']

/-- A text between double quotes, with every character in its quoted form. -/
def quoted (text : String) : String :=
  String.ofList ('"' :: text.toList.flatMap quotedChar ++ ['"'])

end ResourceWatch.Text
