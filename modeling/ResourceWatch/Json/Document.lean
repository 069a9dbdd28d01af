import ResourceWatch.Json.Literal

/-! # Documents

A document is what a text of the data format says, before it is taken as a value:
the members of an object stand in the order of the text, a key may occur twice, and
a literal may denote nothing. Formats that treat repeated members or parts nobody
looks at in their own way are defined on documents. `Document.value?` gives the
value of a document all of whose literals denote something.
-/

namespace ResourceWatch

/-- A text of the data format. A missing number is beyond the largest one, and a
missing text holds a lone surrogate. -/
inductive Document where
  | null
  | bool (value : Bool)
  | number (value : Option Number)
  | string (value : Option String)
  | array (items : List Document)
  | object (members : List (Option String × Document))

namespace Document

open Json

instance : Inhabited Document := ⟨null⟩

/-- Whether a character may stand between the parts of a document. -/
def isSpace (c : Char) : Bool :=
  c = ' ' || c = '\t' || c = '\n' || c = '\r'

/-- The text without the spaces at its start. -/
def skipSpace (text : List Char) : List Char :=
  text.dropWhile isSpace

/-- Reads a document that is neither array nor object. -/
def readScalar : List Char → Option (Document × List Char)
  | '"' :: rest => (readString rest).map fun (value, tail) => (string value, tail)
  | 'n' :: 'u' :: 'l' :: 'l' :: rest => some (null, rest)
  | 't' :: 'r' :: 'u' :: 'e' :: rest => some (bool true, rest)
  | 'f' :: 'a' :: 'l' :: 's' :: 'e' :: rest => some (bool false, rest)
  | text => (NumberLiteral.read text).map fun (literal, tail) => (number literal.value?, tail)

mutual

/-- Reads a document, with the spaces before it. The first argument bounds the
number of documents and parts that are read. -/
def read : Nat → List Char → Option (Document × List Char)
  | 0, _ => none
  | fuel + 1, text =>
    match skipSpace text with
    | '[' :: rest =>
      match skipSpace rest with
      | ']' :: tail => some (array [], tail)
      | first => (readItems fuel first).map fun (items, tail) => (array items, tail)
    | '\x7b' :: rest =>
      match skipSpace rest with
      | '\x7d' :: tail => some (object [], tail)
      | first => (readMembers fuel first).map fun (members, tail) => (object members, tail)
    | scalar => readScalar scalar

/-- Reads the items of an array up to its closing bracket. -/
def readItems : Nat → List Char → Option (List Document × List Char)
  | 0, _ => none
  | fuel + 1, text =>
    (read fuel text).bind fun (item, rest) =>
      match skipSpace rest with
      | ',' :: more => (readItems fuel more).map fun (items, tail) => (item :: items, tail)
      | ']' :: tail => some ([item], tail)
      | _ => none

/-- Reads the members of an object up to its closing brace. -/
def readMembers : Nat → List Char → Option (List (Option String × Document) × List Char)
  | 0, _ => none
  | fuel + 1, text =>
    match skipSpace text with
    | '"' :: quoted =>
      (readString quoted).bind fun (key, afterKey) =>
        match skipSpace afterKey with
        | ':' :: afterColon =>
          (read fuel afterColon).bind fun (value, rest) =>
            match skipSpace rest with
            | ',' :: more =>
              (readMembers fuel more).map fun (members, tail) => ((key, value) :: members, tail)
            | '\x7d' :: tail => some ([(key, value)], tail)
            | _ => none
        | _ => none
    | _ => none

end

/-- The document of a text that holds nothing else. Each character of a text starts
at most two parts of a document, which bounds the reading. -/
def ofChars? (text : List Char) : Option Document :=
  match read (2 * text.length + 1) text with
  | some (document, rest) => if (skipSpace rest).isEmpty then some document else none
  | none => none

/-- The document of a text. -/
def ofText? (text : String) : Option Document :=
  ofChars? text.toList

mutual

/-- How deep arrays and objects are nested. -/
def depth : Document → Nat
  | array items => depthItems items + 1
  | object members => depthMembers members + 1
  | _ => 0

/-- The greatest depth among the items of an array. -/
def depthItems : List Document → Nat
  | [] => 0
  | item :: items => max (depth item) (depthItems items)

/-- The greatest depth among the members of an object. -/
def depthMembers : List (Option String × Document) → Nat
  | [] => 0
  | (_, value) :: members => max (depth value) (depthMembers members)

end

mutual

/-- The value that a document denotes. The last member with a key counts. -/
def value? : Document → Option Json
  | null => some .null
  | bool value => some (.bool value)
  | number value => value.map .number
  | string value => value.map .string
  | array items => (values? items).map .array
  | object members => (memberValues? members).map Json.ofMembers

/-- The values that the items of an array denote. -/
def values? : List Document → Option (List Json)
  | [] => some []
  | item :: items => (value? item).bind fun first => (values? items).map (first :: ·)

/-- The members that the members of an object denote, in the order of the text. -/
def memberValues? : List (Option String × Document) → Option (List (String × Json))
  | [] => some []
  | (key, value) :: members =>
    key.bind fun key => (value? value).bind fun first =>
      (memberValues? members).map ((key, first) :: ·)

end

/-- The values of the members with a key, in the order of the text. -/
def named (key : String) (members : List (Option String × Document)) : List Document :=
  members.filterMap fun (name, value) => if name = some key then some value else none

/-- Whether the key of every member is a text. -/
def keysReadable (members : List (Option String × Document)) : Bool :=
  members.all fun member => member.1.isSome

/-- The name of a variant without contents: a string, or an object whose only
member has the name as its key and nothing as its value. -/
def variant? : Document → Option String
  | string name => name
  | object [(name, null)] => name
  | _ => none

/-- How deep a text may be nested for its value to be read. -/
def maxDepth : Nat := 127

/-- The value of a document that is nested no deeper than some bound. -/
def valueWithin? (bound : Nat) (document : Document) : Option Json :=
  if document.depth ≤ bound then document.value? else none

end Document

/-- Reads the text of a data value. -/
def Json.ofText? (text : String) : Option Json :=
  (Document.ofText? text).bind (Document.valueWithin? Document.maxDepth)

end ResourceWatch
