import ResourceWatch.Resource.Basic

/-! # Records

A record gathers what is known under one name: the streamed object, fields that are
fetched one at a time, and for pods the log. Any of them may be missing.
-/

namespace ResourceWatch

/-- A field that is fetched by itself. -/
inductive Field where
  | spec
  | repository
  | service
  deriving DecidableEq, Repr

namespace Field

def all : List Field := [spec, repository, service]

def name : Field → String
  | spec => "spec"
  | repository => "repository"
  | service => "service"

/-- The name of a field in messages. -/
def label : Field → String
  | spec => "Spec"
  | repository => "Repository"
  | service => "Service"

/-- A text that names no field, in lower case. -/
structure Unknown where
  text : String
  deriving DecidableEq, Repr

def Unknown.message (unknown : Unknown) : String :=
  "unknown field: " ++ unknown.text

/-- The field that a text names in letters of either case. -/
def parse (text : String) : Except Unknown Field :=
  let lower := text.map Char.toLower
  match all.find? fun field => field.name = lower with
  | some field => .ok field
  | none => .error ⟨lower⟩

end Field

/-- What is known under one name. -/
structure Record where
  name : String
  object : Option Resource
  spec : Option Json
  repository : Option Json
  service : Option Json
  log : Option String
  deriving BEq

namespace Record

def named (name : String) : Record := ⟨name, none, none, none, none, none⟩

/-- The record with a fetched field set. -/
def setField (record : Record) (field : Field) (value : Json) : Record :=
  match field with
  | .spec => { record with spec := some value }
  | .repository => { record with repository := some value }
  | .service => { record with service := some value }

/-- The record with its object replaced. -/
def setObject (record : Record) (object : Resource) : Record :=
  { record with object := some object }

end Record

end ResourceWatch
