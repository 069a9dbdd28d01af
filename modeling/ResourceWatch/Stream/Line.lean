import ResourceWatch.Network
import ResourceWatch.Stream.Basic

/-! # Streams on a network

How a stream runs against a network: it takes what is ready one thing after the
other until nothing is, and then only the network, its owner or the passing of time
can move it. `Line` is one stream with its network and clock.
-/

namespace ResourceWatch

namespace Stream

/-- What is ready for a stream at a time, with the network after it was taken. A
request is answered at once. -/
def ready? (stream : Stream) (network : Network) (now : Nat) :
    Option (Network × StreamInput) :=
  match stream.stage with
  | .connecting =>
    match network.request stream.url with
    | (next, some connection) => some (next, .accepted connection)
    | (next, none) => some (next, .refused)
  | .reading id =>
    match network.connections[id]? with
    | none => some (network, .disconnected)
    | some connection =>
      match connection.pending with
      | .text text :: rest =>
        some (network.edit id fun c => { c with pending := rest }, .text text)
      | .fault _ :: rest =>
        some (network.edit id fun c => { c with pending := rest }, .fault)
      -- What is pending is read even after the sender has let go.
      | [] => if connection.hasSender then none else some (network, .disconnected)
  | .waiting time => if time ≤ now then some (network, .elapsed) else none
  | .ended => none

/-- Lets go of the connection that a stream no longer reads. -/
def letGo (before after : Stream) (network : Network) : Network :=
  match before.connection? with
  | some id => if after.connection? = some id then network else network.detach id
  | none => network

/-- Runs a stream for at most some number of steps or until nothing is ready, and
collects the events that it passes on. A closed stream takes nothing. -/
def run : Nat → Stream → Network → Nat → Stream × Network × List WatchEvent
  | 0, stream, network, _ => (stream, network, [])
  | fuel + 1, stream, network, now =>
    if stream.closed then
      let ended := { stream with stage := .ended }
      (ended, letGo stream ended network, [])
    else
      match stream.ready? network now with
      | none => (stream, network, [])
      | some (next, input) =>
        let (after, event) := stream.step now input
        let (last, network, events) := run fuel after (letGo stream after next) now
        (last, network, event.toList ++ events)

/-- A bound on the steps of a stream until nothing is ready: one for each delivery
that is pending, and a few for a request and for an end. -/
def runBound (network : Network) : Nat :=
  network.connections.foldl (fun total connection => total + connection.pending.length) 4

/-- Runs a stream until nothing is ready. -/
def settle (stream : Stream) (network : Network) (now : Nat) :
    Stream × Network × List WatchEvent :=
  run (runBound network) stream network now

end Stream

/-- One stream with its network, and the time. -/
structure Line where
  stream : Stream
  network : Network
  now : Nat

namespace Line

variable (line : Line)

/-- Runs the stream until nothing is ready. -/
def settle : Line × List WatchEvent :=
  let (stream, network, events) := line.stream.settle line.network line.now
  (⟨stream, network, line.now⟩, events)

/-- Lets the stream fire its delays up to a time, at most some number of them. -/
def fire : Nat → Line → Nat → Line × List WatchEvent
  | 0, line, _ => (line, [])
  | count + 1, line, time =>
    match line.stream.deadline with
    | none => (line, [])
    | some due =>
      if due ≤ time then
        let (settled, events) := settle { line with now := due }
        let (last, more) := fire count settled time
        (last, events ++ more)
      else (line, [])

/-- Lets a span of time pass. The stream runs first at the present time, and a delay
that ends within the span is fired at its own time. -/
def sleep (span : Nat) : Line × List WatchEvent :=
  let (settled, events) := line.settle
  let (fired, more) := fire (span + 1) settled (line.now + span)
  ({ fired with now := line.now + span }, events ++ more)

end Line

end ResourceWatch
