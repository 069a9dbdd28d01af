import ResourceWatch.Event

/-! # Quiet windows

Items that arrive in quick succession are collected until a window of time passes
without a new one. `Burst` is the collection with its deadline. `InitGate` uses it at
the start of a stream: until the first snapshot it collects objects, which then come
out as one snapshot, and afterwards events pass unchanged. Time is in milliseconds,
and the owner of a collection watches its deadline.
-/

namespace ResourceWatch

/-- Collected items, and the time at which they are due. -/
structure Burst (α : Type) where
  items : List α
  deadline : Option Nat
  window : Nat
  deriving Repr

namespace Burst

variable {α : Type}

def new (window : Nat) : Burst α := ⟨[], none, window⟩

/-- Adds an item, which puts the deadline a full window later. -/
def push (burst : Burst α) (item : α) (now : Nat) : Burst α :=
  { burst with items := burst.items ++ [item], deadline := some (now + burst.window) }

/-- The collection after its items were taken out. It has no deadline. -/
def emptied (burst : Burst α) : Burst α := new burst.window

def size (burst : Burst α) : Nat := burst.items.length

def isEmpty (burst : Burst α) : Bool := burst.items.isEmpty

end Burst

/-- How far a stream is past its first snapshot. -/
inductive GatePhase where
  | buffering
  | flushed
  | streaming
  deriving DecidableEq, Repr

def GatePhase.label : GatePhase → String
  | buffering => "Buffering"
  | flushed => "Flushed"
  | streaming => "Streaming"

/-- The gate at the start of a stream. -/
structure InitGate where
  phase : GatePhase
  initial : Burst Json

namespace InitGate

def new (window : Nat) : InitGate := ⟨.buffering, .new window⟩

variable (gate : InitGate)

def buffered : Nat := gate.initial.size

/-- When the waiting objects are due. Only a gate that still collects has a
deadline. -/
def deadline : Option Nat :=
  match gate.phase with
  | .buffering => gate.initial.deadline
  | .flushed | .streaming => none

/-- Lets out the waiting objects, with more after them, as the first snapshot. -/
def release (more : List Json) : InitGate × WatchEvent :=
  (⟨.flushed, gate.initial.emptied⟩, .init (gate.initial.items ++ more))

/-- Takes an event at a time, and gives the event to apply now. While it collects,
the gate keeps the object of a change whatever its type. -/
def offer (event : WatchEvent) (now : Nat) : InitGate × Option WatchEvent :=
  match gate.phase with
  | .buffering =>
    match event with
    | .init items => (gate.release items).map id some
    | .added object | .modified object | .deleted object =>
      ({ gate with initial := gate.initial.push object now }, none)
  | .flushed | .streaming => ({ gate with phase := .streaming }, some event)

/-- Gives the waiting objects as the first snapshot, if there are any. -/
def flush : InitGate × Option WatchEvent :=
  if gate.phase = .buffering ∧ ¬gate.initial.isEmpty then (gate.release []).map id some
  else (gate, none)

end InitGate

end ResourceWatch
