import ResourceWatch.CommandLine.Session
import ResourceWatch.CommandLine.Usage
import ResourceWatch.Socket.Handshake
import ResourceWatch.Socket.Reader
import Std.Async.DNS
import Std.Async.Signal
import Std.Async.TCP
import Std.Time.DateTime

/-! # The program

The outer layer of the command line. It reads arguments and variables, prints lines,
and ties the connections of a session's network to sockets: a connection that the
network has opened is dialed, what arrives is put into it, and a dial that fails lets
go of it. Everything else is decided by the session.
-/

namespace ResourceWatch.Program

open Std.Async Socket CommandLine

abbrev Client := TCP.Socket.Client

/-- The most bytes that are received at once. -/
def chunk : UInt64 := 65536

/-- How long the program rests between two looks at its sockets, in milliseconds. -/
def rest : UInt32 := 5

/-- Connects to the first of some addresses that answers. -/
def connectFirst (service : UInt16) : List Std.Net.IPAddr → Async Client
  | [] => throw (IO.userError "no address answers")
  | address :: others => do
    let client ← (TCP.Socket.Client.mk : IO Client)
    let full : Std.Net.SocketAddress :=
      match address with
      | .v4 ip => .v4 ⟨ip, service⟩
      | .v6 ip => .v6 ⟨ip, service⟩
    try
      client.connect full
      return client
    catch _ => connectFirst service others

/-- Connects to the host of an address and asks it for a socket. Only connections
that are not secure can be made. -/
def dial (url key : String) : Async Client := do
  match Endpoint.parse? url with
  | none => throw (IO.userError "the address has no host")
  | some endpoint =>
    if endpoint.secure then throw (IO.userError "there are no secure connections")
    let addresses ← DNS.getAddrInfo endpoint.host ""
    let client ← connectFirst endpoint.service addresses.toList
    client.send (Handshake.request endpoint key).toUTF8
    return client

/-- How far a socket is. -/
inductive Wire where
  | dialing (key : String) (task : AsyncTask Client)
  | opening (client : Client) (key : String) (head : List UInt8)
      (next : AsyncTask (Option ByteArray))
  | reading (client : Client) (reader : Reader) (next : AsyncTask (Option ByteArray))
  | gone

namespace Wire

/-- A socket that is being dialed. -/
def dialed (url : String) : IO Wire := do
  let key := Handshake.keyOf (← IO.getRandomBytes 16).toList
  return .dialing key (← (dial url key).toIO)

/-- The bytes that the server sends next. -/
def receive (client : Client) : IO (AsyncTask (Option ByteArray)) :=
  (client.recv? chunk).toIO

/-- Sends a packet without waiting until it is gone. -/
def send (client : Client) (packet : Packet) : IO Unit := do
  let mask := (← IO.getRandomBytes 4).toList
  let _ ← (client.send (ByteArray.mk (packet.encode mask).toArray)).toIO

/-- Lets go of a socket. -/
def drop (client : Client) : IO Wire := do
  let _ ← client.shutdown.toIO
  return .gone

/-- What a finished task gives, if it is finished and has not failed. -/
def result {α : Type} (task : AsyncTask α) : IO (Option (Except IO.Error α)) := do
  if ← IO.hasFinished task then return some task.get else return none

/-- Takes what a reader made of some bytes: answers what is to be answered, and goes
on reading until the last arrival. -/
def take (client : Client) (reader : Reader) (arrivals : List Arrival) :
    IO (Wire × List Arrival) := do
  for arrival in arrivals do
    match arrival with
    | .ping payload => send client ⟨true, .pong, payload⟩
    | .closed => send client ⟨true, .close, []⟩
    | _ => pure ()
  if arrivals.any Reader.isLast then return (← drop client, arrivals)
  else return (.reading client reader (← receive client), arrivals)

/-- Looks at a socket once. -/
def poll (wire : Wire) : IO (Wire × List Arrival) := do
  match wire with
  | gone => return (wire, [])
  | dialing key task =>
    match ← result task with
    | none => return (wire, [])
    | some (.ok client) => return (.opening client key [] (← receive client), [])
    | some (.error _) => return (.gone, [.closed])
  | opening client key head next =>
    match ← result next with
    | none => return (wire, [])
    | some (.ok (some bytes)) =>
      let head := head ++ bytes.toList
      match Handshake.read key head with
      | .incomplete => return (.opening client key head (← receive client), [])
      | .refused => return (← drop client, [.closed])
      | .opened extra =>
        let (reader, arrivals) := (Reader.new []).feed extra
        take client reader arrivals
    | some _ => return (← drop client, [.closed])
  | reading client reader next =>
    match ← result next with
    | none => return (wire, [])
    | some (.ok (some bytes)) =>
      let (reader, arrivals) := reader.feed bytes.toList
      take client reader arrivals
    | some _ => return (← drop client, [.closed])

/-- Lets go of a socket that nobody reads any more. -/
def abandon : Wire → IO Wire
  | opening client _ _ _ | reading client _ _ => drop client
  | dialing _ _ | gone => return .gone

end Wire

/-- Puts what arrived on a socket into its connection. -/
def arrive (id : Nat) (network : Network) : Arrival → Network
  | .text text => network.put id (.text text)
  | .fault reason => network.put id (.fault reason)
  | .ping _ => network
  | .closed => network.release id

/-- Looks at every socket once, and dials those that are new. -/
def pollAll (network : Network) (wires : Array Wire) : IO (Network × Array Wire) := do
  let mut network := network
  let mut next := #[]
  for (connection, id) in network.connections.zipIdx do
    let wire ← match wires[id]? with
      | some wire => pure wire
      | none => Wire.dialed connection.url
    if connection.hasReader then
      let (wire, arrivals) ← wire.poll
      network := arrivals.foldl (arrive id) network
      next := next.push wire
    else next := next.push (← wire.abandon)
  return (network, next)

/-- Prints lines at once. -/
def printLines (lines : List String) : IO Unit := do
  let out ← IO.getStdout
  for line in lines do
    out.putStrLn line
  out.flush

/-- The present second of universal time. -/
def currentSecond : IO Int := do
  return (← Std.Time.Timestamp.now).toSecondsSinceUnixEpoch.val

/-- Follows a session until it is over or the user interrupts it. A session that is over
needs its sockets no more, and the world is looked at again when it was written to. -/
partial def follow (session : Session) (wires : Array Wire) (last shown : Nat)
    (interrupted : AsyncTask Int) : IO Unit := do
  let now ← IO.monoMsNow
  let session := session.advance (now - last)
  let (session, wires) ←
    if session.isOver then pure (session, wires)
    else do
      let (network, wires) ← pollAll session.engine.network wires
      let engine := { session.engine with network := network }
      pure (Session.advance { session with engine := engine } 0, wires)
  let epoch := session.engine.registry.world.epoch
  let session ←
    if epoch = shown then pure session
    else do
      let (session, lines) := session.observe
      printLines lines
      pure session
  if session.isOver then printLines (session.close (← currentSecond))
  else if ← IO.hasFinished interrupted then return
  else
    IO.sleep rest
    follow session wires now epoch interrupted

/-- Runs an invocation, and gives the status with which the program ends. -/
def run (invocation : Invocation) : IO UInt32 := do
  match Session.start ((← IO.monoMsNow) / 1000) invocation with
  | .error fault =>
    IO.eprintln fault.message
    return UInt32.ofNat fault.exitCode
  | .ok (.printed lines) =>
    printLines lines
    return 0
  | .ok (.session session) =>
    let interrupted ← (← Signal.Waiter.mk .sigint false).wait
    follow session #[] (← IO.monoMsNow) 0 interrupted
    return 0

/-- The values of the variables that stand in for options. -/
def givenVariables : IO (List (String × String)) :=
  [Config.originVariable, Config.reconnectVariable, Config.quietVariable].filterMapM
    fun name => do return (← IO.getEnv name).map (name, ·)

end ResourceWatch.Program

open ResourceWatch CommandLine in
/-- Reads the arguments and runs what they ask for. -/
def main (arguments : List String) : IO UInt32 := do
  let values ← Program.givenVariables
  match Invocation.parse (fun name => (values.find? (·.1 = name)).map Prod.snd) arguments with
  | .ok invocation => Program.run invocation
  | .error fault =>
    if fault.exitCode = 0 then Program.printLines usageLines
    else
      IO.eprintln ("error: " ++ fault.message)
      IO.eprintln (String.intercalate "\n" usageLines)
    return UInt32.ofNat fault.exitCode
