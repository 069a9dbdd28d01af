import ResourceWatch.Registry.Basic
import ResourceWatch.Stream.Line

/-! # A registry at work

The streams of a registry run against a network, and their events go through the
pumps into the world. Between two moments of time everything that is ready runs to
its end; then time passes to the next deadline of a stream or pump. Streams whose
delays end at the same moment ask again in the order in which they began to wait.
-/

namespace ResourceWatch

/-- A registry with its network and the time, and the feeds that wait to ask again in
the order in which they began to. -/
structure Engine where
  registry : Registry
  network : Network
  now : Nat
  asleep : List Nat

namespace Engine

/-- The engine of a registry without streams. -/
def new (config : Config) (source : Option FieldSource) : Engine :=
  ⟨.new config source, .new false, 0, []⟩

/-- Runs the stream of a feed until nothing is ready, and its pump with the events
that the stream passes on. A pump whose deadline has come writes before it is told of
anything new, and the pump of a stream at its end writes what it holds. -/
def runFeed (feed : Feed) (network : Network) (now : Nat) :
    Feed × Network × List Write :=
  let (stream, network, events) := feed.stream.settle network now
  let due := feed.pump.deadline.any fun time => time ≤ now
  let inputs := (if due then [PumpInput.due] else []) ++
    events.map (fun event => PumpInput.event event now) ++
    (if stream.isFinished then [PumpInput.ended] else [])
  let (pump, writes) := feed.pump.run inputs
  (⟨stream, pump⟩, network, writes)

/-- The feeds that wait, after one of them ran. -/
def stillAsleep (asleep : List Nat) (id : Nat) (before after : Stream) : List Nat :=
  match after.deadline with
  | none => asleep.filter fun other => other ≠ id
  | some _ =>
    -- A feed with the deadline it had before has not asked in between and keeps its place.
    if after.deadline = before.deadline then asleep
    else asleep.filter (fun other => other ≠ id) ++ [id]

variable (engine : Engine)

/-- Runs one feed until nothing is ready for it. -/
def settleFeed (id : Nat) : Engine :=
  match engine.registry.feeds[id]? with
  | none => engine
  | some feed =>
    let (after, network, writes) := runFeed feed engine.network engine.now
    { engine with
      registry := { engine.registry with
        feeds := engine.registry.feeds.set id after
        world := engine.registry.world.commitAll writes }
      network := network
      asleep := stillAsleep engine.asleep id feed.stream after.stream }

/-- The feeds in the order in which they run: first those that wait. -/
def order : List Nat :=
  engine.asleep ++
    (List.range engine.registry.feeds.length).filter fun id => !engine.asleep.contains id

/-- Runs every feed until nothing is ready. -/
def settle : Engine :=
  engine.order.foldl settleFeed engine

/-- The deadlines of all streams and pumps. -/
def deadlines : List Nat :=
  engine.registry.feeds.flatMap fun feed =>
    feed.stream.deadline.toList ++ feed.pump.deadline.toList

/-- The next deadline up to a time. -/
def nextDeadline? (time : Nat) : Option Nat :=
  (engine.deadlines.filter fun due => due ≤ time).min?

/-- Lets deadlines come up to a time, at most some number of them. -/
def fire : Nat → Engine → Nat → Engine
  | 0, engine, _ => engine
  | count + 1, engine, time =>
    match engine.nextDeadline? time with
    | none => engine
    | some due => fire count (settle { engine with now := due }) time

/-- Lets a span of time pass. -/
def sleep (span : Nat) : Engine :=
  let time := engine.now + span
  { fire (span + 1) engine.settle time with now := time }

end Engine

end ResourceWatch
