import ResourceWatch.Json.Value

/-! # Label sets

The labels or annotations of an object, as the payload holds them. Only members
with string values can be compared, but a member with any value counts as present.
-/

namespace ResourceWatch

/-- A set of labels: the members of an object. -/
structure LabelSet where
  members : List (String × Json)

namespace LabelSet

/-- The labels in a value. A missing value and a value that is no object have
none. -/
def ofValue (value : Option Json) : LabelSet :=
  ⟨(value.bind Json.asObject?).getD []⟩

def get? (labels : LabelSet) (key : String) : Option String :=
  (Entries.get? key labels.members).bind Json.asString?

/-- Whether a label is present, with any value. -/
def has (labels : LabelSet) (key : String) : Bool :=
  (Entries.get? key labels.members).isSome

/-- The number of labels, with any value. -/
def size (labels : LabelSet) : Nat := labels.members.length

def isEmpty (labels : LabelSet) : Bool := labels.size = 0

/-- The labels with texts, in ascending order. -/
def pairs (labels : LabelSet) : List (String × String) :=
  labels.members.filterMap fun (key, value) => value.asString?.map (key, ·)

end LabelSet

end ResourceWatch
