import ResourceWatch.Text.Split

/-! # Networks

The far side of streams, as far as they can see it: connections on which texts and
read faults are delivered in order, until one side lets go. A network accepts every
request for a connection, or refuses every one.
-/

namespace ResourceWatch

/-- What a connection delivers. -/
inductive Delivery where
  | text (text : String)
  | fault (reason : String)
  deriving DecidableEq, Repr

/-- A connection with the deliveries that are not yet read. It has a sender and a
reader until they let go. -/
structure Connection where
  url : String
  pending : List Delivery
  hasSender : Bool
  hasReader : Bool
  deriving DecidableEq, Repr

/-- Whether both sides still hold the connection. -/
def Connection.isLive (connection : Connection) : Bool :=
  connection.hasSender && connection.hasReader

/-- All connections in the order in which they were opened, and how requests are
answered. -/
structure Network where
  connections : List Connection
  refusing : Bool
  attempts : Nat
  deriving DecidableEq, Repr

namespace Network

def new (refusing : Bool) : Network := ⟨[], refusing, 0⟩

variable (network : Network)

def opened : Nat := network.connections.length

def live : Nat := network.connections.countP Connection.isLive

def urls : List String := network.connections.map Connection.url

/-- Changes one connection. -/
def edit (id : Nat) (change : Connection → Connection) : Network :=
  { network with connections := network.connections.modify id change }

/-- Answers a request: the number of a new connection, or nothing if it is
refused. -/
def request (url : String) : Network × Option Nat :=
  let counted := { network with attempts := network.attempts + 1 }
  if network.refusing then (counted, none)
  else
    ({ counted with connections := network.connections ++ [⟨url, [], true, true⟩] },
      some network.opened)

/-- The reader of a connection lets go, and what it has not read is lost. -/
def detach (id : Nat) : Network :=
  network.edit id fun connection => { connection with pending := [], hasReader := false }

/-- The newest live connection whose address contains a text. -/
def newest? (part : String) : Option Nat :=
  let chosen := network.connections.zipIdx.reverse.find? fun (connection, _) =>
    connection.isLive && (Text.cutAt part.toList connection.url.toList).isSome
  chosen.map Prod.snd

/-- Puts a delivery after those that a connection still has to read. -/
def put (id : Nat) (delivery : Delivery) : Network :=
  network.edit id fun connection =>
    { connection with pending := connection.pending ++ [delivery] }

/-- The sender of a connection lets go. What is pending is still read. -/
def release (id : Nat) : Network :=
  network.edit id fun connection => { connection with hasSender := false }

/-- Delivers to the newest live connection whose address contains a text. The second
part says whether there is one. -/
def deliver (part : String) (delivery : Delivery) : Network × Bool :=
  match network.newest? part with
  | some id => (network.put id delivery, true)
  | none => (network, false)

/-- The sender of the newest live connection whose address contains a text lets
go. -/
def hangUp (part : String) : Network × Bool :=
  match network.newest? part with
  | some id => (network.release id, true)
  | none => (network, false)

end Network

end ResourceWatch
