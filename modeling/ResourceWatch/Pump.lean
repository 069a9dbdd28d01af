import ResourceWatch.Gate
import ResourceWatch.World

/-! # Pumps

A pump turns the events of one stream into writes. The pump of a resource stream
passes events through an initial gate; the pump of a log collects changes until they
are quiet for a window and writes each collection at once. When its stream has ended,
a pump writes what it still holds.
-/

namespace ResourceWatch

/-- What a pump is told: an event at a time, that its deadline has come, or that its
stream has ended. -/
inductive PumpInput where
  | event (event : WatchEvent) (now : Nat)
  | due
  | ended

/-- The pump of a resource stream. -/
structure WatchPump where
  kind : Kind
  env : String
  gate : InitGate

namespace WatchPump

def new (kind : Kind) (env : String) (window : Nat) : WatchPump := ⟨kind, env, .new window⟩

variable (pump : WatchPump)

/-- The writes for what the gate lets out. -/
def emit (result : InitGate × Option WatchEvent) : WatchPump × List Write :=
  ({ pump with gate := result.1 },
    result.2.toList.map fun event => .apply pump.kind pump.env event)

/-- One step of the pump. -/
def step : PumpInput → WatchPump × List Write
  | .event event now => pump.emit (pump.gate.offer event now)
  | .due => pump.emit pump.gate.flush
  | .ended => pump.emit pump.gate.flush

end WatchPump

/-- The pump of the log of a pod. -/
structure LogPump where
  env : String
  pod : String
  batch : Burst LogEvent

namespace LogPump

def new (env pod : String) (window : Nat) : LogPump := ⟨env, pod, .new window⟩

variable (pump : LogPump)

/-- Writes the collected changes, if there are any. -/
def flush : LogPump × List Write :=
  if pump.batch.isEmpty then (pump, [])
  else
    ({ pump with batch := pump.batch.emptied },
      [.appendLogs pump.env pump.pod pump.batch.items])

/-- One step of the pump. An event that changes no log is passed over and does not
put the deadline off. -/
def step : PumpInput → LogPump × List Write
  | .event event now =>
    match LogEvent.ofWatch? event with
    | some change => ({ pump with batch := pump.batch.push change now }, [])
    | none => (pump, [])
  | .due => pump.flush
  | .ended => pump.flush

end LogPump

/-- The pump of a stream of either sort. -/
inductive Pump where
  | watch (pump : WatchPump)
  | log (pump : LogPump)

namespace Pump

/-- When the pump is due to write what it holds. -/
def deadline : Pump → Option Nat
  | watch pump => pump.gate.deadline
  | log pump => pump.batch.deadline

/-- One step of a pump, with the writes that it makes. -/
def step (pump : Pump) (input : PumpInput) : Pump × List Write :=
  match pump with
  | watch pump => (pump.step input).map watch id
  | log pump => (pump.step input).map log id

/-- The steps of a pump for a list of inputs. -/
def run (pump : Pump) : List PumpInput → Pump × List Write
  | [] => (pump, [])
  | input :: inputs =>
    let (next, writes) := pump.step input
    let (last, more) := next.run inputs
    (last, writes ++ more)

end Pump

end ResourceWatch
