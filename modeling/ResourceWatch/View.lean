import ResourceWatch.Json.Printer
import ResourceWatch.Store.Basic

/-! # Views and their changes

A view is the objects of one kind and environment by name, as a reader sees them at
one moment. `View.changes` lists what turns one view into another, in the order of
the names and at most once for each name.
-/

namespace ResourceWatch

/-- The objects that a reader sees, by name. -/
abbrev View := OrderedMap String Resource

/-- What happened to a name between two views. -/
inductive ChangeType where
  | added
  | modified
  | deleted
  deriving DecidableEq, Repr

namespace ChangeType

def name : ChangeType → String
  | added => "added"
  | modified => "modified"
  | deleted => "deleted"

/-- The sign of a type of change. -/
def sign : ChangeType → String
  | added => "+"
  | modified => "~"
  | deleted => "-"

end ChangeType

/-- A change of one name: the new object, or the old one of a deletion. -/
structure Change where
  type : ChangeType
  name : String
  object : Resource

namespace Change

/-- The change of a name that has an object or none before and after. An object with
an equal payload has not changed. -/
def between? (name : String) : Option Resource → Option Resource → Option Change
  | none, some new => some ⟨.added, name, new⟩
  | some old, some new =>
    if old.payload == new.payload then none else some ⟨.modified, name, new⟩
  | some old, none => some ⟨.deleted, name, old⟩
  | none, none => none

/-- The line for a reader: the sign and the name. -/
def line (change : Change) : String :=
  change.type.sign ++ " " ++ change.name

/-- The line for a program: the change as an object with its members in a fixed
order. -/
def dataLine (kind : Kind) (env : String) (change : Change) : String :=
  Json.renderMembers
    [("op", .string change.type.name), ("kind", .string kind.name), ("env", .string env),
      ("name", .string change.name), ("object", change.object.payload)]

end Change

namespace View

/-- The names that either of two views has, in ascending order. -/
def allNames (earlier later : View) : List String :=
  (OrderedMap.ofList (earlier.toList ++ later.toList)).keys

/-- The changes from one view to another, in the order of the names. -/
def changes (earlier later : View) : List Change :=
  (allNames earlier later).filterMap fun name =>
    Change.between? name (earlier.get? name) (later.get? name)

end View

end ResourceWatch
