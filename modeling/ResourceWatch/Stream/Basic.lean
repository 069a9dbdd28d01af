import ResourceWatch.Frame

/-! # Streams

A stream keeps one connection to an address and passes on the events of the frames
that it reads. After a refusal, a read fault or the end of a connection it waits for
a fixed delay and asks again, for ever. It ends for good when its owner closes it or
the server sends the frame that closes a stream, and whoever is closed looks at
nothing else any more.
-/

namespace ResourceWatch

/-- Where a stream stands: before a request, reading a connection, waiting until a
time, or at its end. -/
inductive StreamStage where
  | connecting
  | reading (connection : Nat)
  | waiting (time : Nat)
  | ended
  deriving DecidableEq, Repr

/-- What can happen to a stream: an answer to its request, something on its
connection, or the passing of its delay. -/
inductive StreamInput where
  | accepted (connection : Nat)
  | refused
  | text (text : String)
  | fault
  | disconnected
  | elapsed
  deriving DecidableEq, Repr

/-- A stream to an address. The delay is in milliseconds. -/
structure Stream where
  url : String
  delay : Nat
  closed : Bool
  stage : StreamStage
  deriving DecidableEq, Repr

namespace Stream

/-- The stream as it is opened, before it asks for a connection. -/
def new (url : String) (delay : Nat) : Stream := ⟨url, delay, false, .connecting⟩

variable (stream : Stream)

/-- Marks the stream as closed by its owner. -/
def close : Stream := { stream with closed := true }

def isFinished : Bool := stream.stage = .ended

/-- The connection that the stream reads. -/
def connection? : Option Nat :=
  match stream.stage with
  | .reading connection => some connection
  | _ => none

/-- The time at which the stream asks again. -/
def deadline : Option Nat :=
  match stream.stage with
  | .waiting time => some time
  | _ => none

def wait (now : Nat) : Stream := { stream with stage := .waiting (now + stream.delay) }

/-- Takes a text from the connection. A text that is no frame is passed over. -/
def readText (text : String) : Stream × Option WatchEvent :=
  match Frame.decode text with
  | .ok (.event event) => (stream, some event)
  | .ok .closed => ({ stream with closed := true, stage := .ended }, none)
  | .error _ => (stream, none)

/-- One step of a stream, with the event that it passes on. A closed stream ends
whatever happens, and nothing else is looked at. -/
def step (now : Nat) (input : StreamInput) : Stream × Option WatchEvent :=
  -- The mark comes first, so what is ready together with a close is lost.
  if stream.closed then ({ stream with stage := .ended }, none)
  else
    match stream.stage, input with
    | .connecting, .accepted connection => ({ stream with stage := .reading connection }, none)
    | .connecting, .refused => (stream.wait now, none)
    | .reading _, .text text => stream.readText text
    | .reading _, .fault => (stream.wait now, none)
    | .reading _, .disconnected => (stream.wait now, none)
    | .waiting _, .elapsed => ({ stream with stage := .connecting }, none)
    | _, _ => (stream, none)

section Step

variable {stream : Stream}

theorem step_of_closed (hclosed : stream.closed = true) (now : Nat) (input : StreamInput) :
    stream.step now input = ({ stream with stage := .ended }, none) := by
  simp [step, hclosed]

theorem step_accepted (hclosed : stream.closed = false) (hstage : stream.stage = .connecting)
    (now connection : Nat) :
    stream.step now (.accepted connection) =
      ({ stream with stage := .reading connection }, none) := by
  simp [step, hclosed, hstage]

theorem step_refused (hclosed : stream.closed = false) (hstage : stream.stage = .connecting)
    (now : Nat) : stream.step now .refused = (stream.wait now, none) := by
  simp [step, hclosed, hstage]

theorem step_text (hclosed : stream.closed = false) {connection : Nat}
    (hstage : stream.stage = .reading connection) (now : Nat) (text : String) :
    stream.step now (.text text) = stream.readText text := by
  simp [step, hclosed, hstage]

theorem step_fault (hclosed : stream.closed = false) {connection : Nat}
    (hstage : stream.stage = .reading connection) (now : Nat) :
    stream.step now .fault = (stream.wait now, none) := by
  simp [step, hclosed, hstage]

theorem step_disconnected (hclosed : stream.closed = false) {connection : Nat}
    (hstage : stream.stage = .reading connection) (now : Nat) :
    stream.step now .disconnected = (stream.wait now, none) := by
  simp [step, hclosed, hstage]

theorem step_elapsed (hclosed : stream.closed = false) {time : Nat}
    (hstage : stream.stage = .waiting time) (now : Nat) :
    stream.step now .elapsed = ({ stream with stage := .connecting }, none) := by
  simp [step, hclosed, hstage]

end Step

/-- What a message shows of a stream's handle: its identifier, its address and
whether it is closed. -/
def describe (identifier : String) : String :=
  "TransportHandle \x7b id: " ++ identifier ++ ", url: " ++ Text.quoted stream.url ++
    ", closed: " ++ (if stream.closed then "true" else "false") ++ " \x7d"

end Stream

end ResourceWatch
