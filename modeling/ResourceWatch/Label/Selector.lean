import ResourceWatch.Label.Set
import ResourceWatch.Text.Quoted
import ResourceWatch.Text.Split

/-! # Label selectors

A selector is a list of requirements on labels, all of which must hold. It is
written as terms with commas between them: `k=v` or `k==v`, `k!=v`, `k` and `!k`.
Blank text around terms, keys and values does not count, and a selector without
terms matches everything.
-/

namespace ResourceWatch

/-- One requirement on a set of labels. -/
inductive Requirement where
  | equals (key value : String)
  | differs (key value : String)
  | present (key : String)
  | absent (key : String)
  deriving DecidableEq, Repr

namespace Requirement

/-- The key that a requirement speaks of. -/
def key : Requirement → String
  | equals key _ | differs key _ | present key | absent key => key

/-- Whether labels satisfy a requirement. A label without a text differs from every
value. -/
def accepts (requirement : Requirement) (labels : LabelSet) : Bool :=
  match requirement with
  | equals key value => labels.get? key = some value
  | differs key value => labels.get? key ≠ some value
  | present key => labels.has key
  | absent key => !labels.has key

/-- The written form of a requirement. -/
def write : Requirement → List Char
  | equals key value => key.toList ++ '=' :: value.toList
  | differs key value => key.toList ++ '!' :: '=' :: value.toList
  | present key => key.toList
  | absent key => '!' :: key.toList

/-- The text between the blanks at the ends of a part of a term. -/
def part (text : List Char) : String :=
  String.ofList (Text.trim text)

/-- The requirement that a term states, whether or not its key can be one. An
inequality is looked for first, then an equality with two signs, then one with one
sign. -/
def ofTerm (term : List Char) : Requirement :=
  match Text.cutAt ['!', '='] term with
  | some (key, value) => differs (part key) (part value)
  | none =>
    -- Two signs are tried first, as the text after a single one may begin with another.
    match (Text.cutAt ['=', '='] term).or (Text.cutAt ['='] term) with
    | some (key, value) => equals (part key) (part value)
    | none =>
      match term with
      | '!' :: key => absent (part key)
      | _ => present (String.ofList term)

end Requirement

/-- A conjunction of requirements. -/
structure Selector where
  requirements : List Requirement
  deriving DecidableEq, Repr

namespace Selector

/-- A term whose key cannot be one. -/
structure BadTerm where
  term : String
  deriving DecidableEq, Repr

def BadTerm.message (fault : BadTerm) : String :=
  "invalid label selector term: " ++ Text.quoted fault.term

/-- Whether a text can be a key: it has characters, and none of them is blank or
part of an operator. -/
def isKey (key : String) : Bool :=
  !key.toList.isEmpty && key.toList.all fun c => !Text.isBlank c && c ≠ '=' && c ≠ '!'

/-- The terms of a selector's text, without blanks at their ends and without empty
ones. -/
def terms (text : List Char) : List (List Char) :=
  ((Text.splitOn ',' text).map Text.trim).filter fun term => !term.isEmpty

/-- Reads one term. -/
def readTerm (term : List Char) : Except BadTerm Requirement :=
  let requirement := Requirement.ofTerm term
  if isKey requirement.key then .ok requirement else .error ⟨String.ofList term⟩

/-- Reads the terms up to the first faulty one. -/
def readTerms : List (List Char) → Except BadTerm (List Requirement)
  | [] => .ok []
  | term :: rest =>
    match readTerm term with
    | .error fault => .error fault
    | .ok requirement =>
      match readTerms rest with
      | .error fault => .error fault
      | .ok requirements => .ok (requirement :: requirements)

/-- Reads a selector. -/
def parse (text : String) : Except BadTerm Selector :=
  match readTerms (terms text.toList) with
  | .error fault => .error fault
  | .ok requirements => .ok ⟨requirements⟩

def isEmpty (selector : Selector) : Bool := selector.requirements.isEmpty

/-- Whether labels satisfy every requirement. -/
def accepts (selector : Selector) (labels : LabelSet) : Bool :=
  selector.requirements.all fun requirement => requirement.accepts labels

/-- The canonical text of a selector: its terms with single equality signs and
without blanks. -/
def render (selector : Selector) : String :=
  String.ofList (Text.joinWith ',' (selector.requirements.map Requirement.write))

end Selector

end ResourceWatch
