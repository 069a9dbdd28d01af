import ResourceWatch.Kind
import ResourceWatch.Label.Set
import ResourceWatch.Timestamp

/-! # Resources

A resource is a payload together with the kind it was streamed as. Identity and
metadata are read from the payload in the same way for every kind, and a field that
is missing or of another type reads as nothing.
-/

namespace ResourceWatch

/-- The name that a payload declares: the name in its metadata, else the one at its
top. -/
def objectName? (payload : Json) : Option String :=
  (payload.stringAt? ["metadata", "name"]).or (payload.stringAt? ["name"])

/-- The payload that declares a name and nothing else. -/
def nameOnly (name : String) : Json := .object [("name", .string name)]

/-- The payload that declares a name and the phase of a pod. -/
def nameAndPhase (name phase : String) : Json :=
  .object [("name", .string name), ("phase", .string phase)]

@[simp] theorem objectName?_nameOnly (name : String) : objectName? (nameOnly name) = some name :=
  rfl

/-- A tracked object. -/
structure Resource where
  kind : Kind
  payload : Json
  deriving BEq

namespace Resource

variable (resource : Resource)

def name? : Option String := objectName? resource.payload

def namespace? : Option String := resource.payload.stringAt? ["metadata", "namespace"]

def uid? : Option String := resource.payload.stringAt? ["metadata", "uid"]

/-- The labels of the object. -/
def labels : LabelSet := .ofValue (resource.payload.at? ["metadata", "labels"])

/-- The annotations of the object, which have the form of labels. -/
def annotations : LabelSet := .ofValue (resource.payload.at? ["metadata", "annotations"])

/-- When the object was created. -/
def created? : Option Timestamp :=
  (resource.payload.stringAt? ["metadata", "creationTimestamp"]).bind Timestamp.ofText?

/-- The written age of the object at a second, or a dash if its creation is not
known. -/
def renderAge (now : Int) : String :=
  match resource.created? with
  | some created => ResourceWatch.renderAge (created.ageAt now)
  | none => "-"

end Resource

end ResourceWatch
