import ResourceWatch.Json.Value
import ResourceWatch.Number.Shortest
import ResourceWatch.Text.Quoted

/-! # Writing data values

The compact form without spaces, and the indented form with one member or item per
line. Members are written in the order in which they stand, and every character is
written as it is unless it is a quote, a backslash or a control.
-/

namespace ResourceWatch.Json

/-- Floating-point numbers are positional from the fifth place after the point to
sixteen digits before it. -/
def floatFormat : DecimalFormat := ⟨-5, 15, true⟩

/-- The form of one character inside a string. -/
def escape (c : Char) : List Char :=
  if c = '"' then ['\\', '"']
  else if c = '\\' then ['\\', '\\']
  else if c = '\x08' then ['\\', 'b']
  else if c = '\x0c' then ['\\', 'f']
  else if c = '\n' then ['\\', 'n']
  else if c = '\r' then ['\\', 'r']
  else if c = '\t' then ['\\', 't']
  else if c.toNat < 0x20 then
    ['\\', 'u', '0', '0', Nat.digitChar (c.toNat / 16), Nat.digitChar (c.toNat % 16)]
  else [c]

/-- Writes a string between quotes. -/
def writeString (value : String) : List Char :=
  '"' :: value.toList.flatMap escape ++ ['"']

/-- Writes an integer in decimal. -/
def writeInt (n : Int) : List Char :=
  (if n < 0 then ['-'] else []) ++ Nat.toDigits 10 n.natAbs

/-- Writes a number. -/
def writeNumber : Number → List Char
  | .int n => writeInt n.val
  | .float x => floatFormat.writeBinary64 x

mutual

/-- Writes a value without spaces. -/
def write : Json → List Char
  | null => ['n', 'u', 'l', 'l']
  | bool true => ['t', 'r', 'u', 'e']
  | bool false => ['f', 'a', 'l', 's', 'e']
  | number value => writeNumber value
  | string value => writeString value
  | array items => '[' :: writeItems items ++ [']']
  | object members => '\x7b' :: writeMembers members ++ ['\x7d']

/-- Writes the items of an array with commas between them. -/
def writeItems : List Json → List Char
  | [] => []
  | [item] => write item
  | item :: items => write item ++ ',' :: writeItems items

/-- Writes the members of an object with commas between them. -/
def writeMembers : List (String × Json) → List Char
  | [] => []
  | [(key, value)] => writeString key ++ ':' :: write value
  | (key, value) :: members =>
    writeString key ++ ':' :: write value ++ ',' :: writeMembers members

end

/-- The compact text of a value. -/
def render (value : Json) : String :=
  String.ofList (write value)

/-- The compact text of an object whose members have an order of their own. -/
def renderMembers (members : List (String × Json)) : String :=
  render (object members)

/-- A line end and the indentation of a level. -/
def newLine (level : Nat) : List Char :=
  '\n' :: List.replicate (2 * level) ' '

mutual

/-- Writes a value with each item and member on a line of its own. An array or
object without any stays on one line. -/
def writeIndented (level : Nat) : Json → List Char
  | array (item :: items) =>
    '[' :: writeIndentedItems (level + 1) (item :: items) ++ newLine level ++ [']']
  | object (member :: members) =>
    '\x7b' :: writeIndentedMembers (level + 1) (member :: members) ++ newLine level ++ ['\x7d']
  | value => write value

/-- Writes the items of an array, each on a line. -/
def writeIndentedItems (level : Nat) : List Json → List Char
  | [] => []
  | [item] => newLine level ++ writeIndented level item
  | item :: items =>
    newLine level ++ writeIndented level item ++ ',' :: writeIndentedItems level items

/-- Writes the members of an object, each on a line. -/
def writeIndentedMembers (level : Nat) : List (String × Json) → List Char
  | [] => []
  | [(key, value)] => newLine level ++ writeString key ++ ':' :: ' ' :: writeIndented level value
  | (key, value) :: members =>
    newLine level ++ writeString key ++ ':' :: ' ' :: writeIndented level value ++
      ',' :: writeIndentedMembers level members

end

end ResourceWatch.Json
