import ResourceWatch.Resource.Basic

/-! # Watch events

A watch event is one change that a stream reports: a snapshot of several objects,
or one object that was added, modified or deleted.
-/

namespace ResourceWatch

/-- A change of a stream. -/
inductive WatchEvent where
  | init (items : List Json)
  | added (object : Json)
  | modified (object : Json)
  | deleted (object : Json)
  deriving BEq

namespace WatchEvent

/-- The object of a change of one object. -/
def object? : WatchEvent → Option Json
  | init _ => none
  | added object | modified object | deleted object => some object

def name? (event : WatchEvent) : Option String :=
  event.object?.bind objectName?

/-- The payloads that an event carries, in order. -/
def payloads : WatchEvent → List Json
  | init items => items
  | added object | modified object | deleted object => [object]

end WatchEvent

end ResourceWatch
