import ResourceWatch.Event
import ResourceWatch.Json.Printer

/-! # Frames

The text form of watch events. A frame is an object with a type, and for some types
an object or a list; the same parts may also stand in an array in this order. A type
of its own ends a stream. `Frame.decode` reads a text in any of the accepted forms,
and `WatchEvent.render` writes the one form in which events are sent.
-/

namespace ResourceWatch

/-- The type of a frame. -/
inductive FrameType where
  | init
  | added
  | modified
  | deleted
  | closed
  deriving DecidableEq, Repr

namespace FrameType

def all : List FrameType := [init, added, modified, deleted, closed]

def name : FrameType → String
  | init => "INIT"
  | added => "ADDED"
  | modified => "MODIFIED"
  | deleted => "DELETED"
  | closed => "CLOSED"

/-- The name of a type in messages. -/
def label : FrameType → String
  | init => "Init"
  | added => "Added"
  | modified => "Modified"
  | deleted => "Deleted"
  | closed => "Closed"

/-- The type of an exact name. -/
def ofName? (name : String) : Option FrameType :=
  all.find? fun type => type.name = name

/-- The type that a document names. -/
def ofDocument? (document : Document) : Option FrameType :=
  document.variant?.bind ofName?

end FrameType

/-- The parts of a frame. -/
structure WireFrame where
  type : FrameType
  object : Option Json
  list : Option (List Json)

namespace WireFrame

/-- The parts as members in the order in which they are written. -/
def members (frame : WireFrame) : List (String × Json) :=
  ("type", .string frame.type.name) ::
    (frame.object.toList.map ("object", ·) ++
      frame.list.toList.map fun items => ("list", .array items))

def render (frame : WireFrame) : String :=
  Json.renderMembers frame.members

/-- How deep the parts of a frame may be nested, which is one level less than a
text. -/
def maxPartDepth : Nat := Document.maxDepth - 1

/-- Reads the object of a frame. Nothing in its place is the same as no object. -/
def readObject? : Document → Option (Option Json)
  | .null => some none
  | document => (document.valueWithin? maxPartDepth).map some

/-- Reads the list of a frame. Nothing in its place is the same as no list. -/
def readList? : Document → Option (Option (List Json))
  | .null => some none
  | .array items => ((Document.array items).valueWithin? maxPartDepth).bind fun value =>
    value.asArray?.map some
  | _ => none

/-- A part that may be missing but not repeated. -/
def optionalPart? {α : Type} (read : Document → Option (Option α)) :
    List Document → Option (Option α)
  | [] => some none
  | [document] => read document
  | _ => none

/-- Reads a frame. Members of an object with other keys do not count, but their keys
must be texts. -/
def ofDocument? : Document → Option WireFrame
  | .object members =>
    if Document.keysReadable members then
      match Document.named "type" members with
      | [type] => do
        let type ← FrameType.ofDocument? type
        let object ← optionalPart? readObject? (Document.named "object" members)
        let list ← optionalPart? readList? (Document.named "list" members)
        return ⟨type, object, list⟩
      | _ => none
    else none
  -- The parts may also stand in an array, in the order in which they are written.
  | .array [type] => do
    return ⟨← FrameType.ofDocument? type, none, none⟩
  | .array [type, object] => do
    return ⟨← FrameType.ofDocument? type, ← readObject? object, none⟩
  | .array [type, object, list] => do
    return ⟨← FrameType.ofDocument? type, ← readObject? object, ← readList? list⟩
  | _ => none

end WireFrame

/-- Why a text is no frame. -/
inductive DecodeError where
  | malformed
  | missingObject (type : FrameType)
  deriving DecidableEq, Repr

def DecodeError.message : DecodeError → String
  | malformed => "invalid frame json"
  | missingObject type => type.label ++ " frame without object"

/-- What a frame means: a change, or the end of its stream. -/
inductive Frame where
  | event (event : WatchEvent)
  | closed
  deriving BEq

namespace Frame

/-- The object of a change of one object, which must be there. -/
def needObject (type : FrameType) (object : Option Json) (event : Json → WatchEvent) :
    Except DecodeError Frame :=
  match object with
  | some value => .ok (.event (event value))
  | none => .error (.missingObject type)

/-- The meaning of the parts of a frame. A snapshot without a list may have a lone
object instead, which is how logs begin. -/
def ofWire (frame : WireFrame) : Except DecodeError Frame :=
  match frame.type with
  | .closed => .ok .closed
  | .init => .ok (.event (.init (frame.list.getD frame.object.toList)))
  | .added => needObject .added frame.object .added
  | .modified => needObject .modified frame.object .modified
  | .deleted => needObject .deleted frame.object .deleted

/-- The meaning of a text. -/
def decode (text : String) : Except DecodeError Frame :=
  match (Document.ofText? text).bind WireFrame.ofDocument? with
  | some frame => ofWire frame
  | none => .error .malformed

end Frame

namespace WatchEvent

/-- The type of the frame of an event. -/
def frameType : WatchEvent → FrameType
  | init _ => .init
  | added _ => .added
  | modified _ => .modified
  | deleted _ => .deleted

/-- The frame of an event: a snapshot has a list, any other event an object. -/
def toWire : WatchEvent → WireFrame
  | init items => ⟨.init, none, some items⟩
  | event => ⟨event.frameType, event.object?, none⟩

def render (event : WatchEvent) : String :=
  event.toWire.render

end WatchEvent

end ResourceWatch
