import ResourceWatch.Socket.Packet

/-! # Reading a socket

The parts of messages that arrive on an open socket are put together, and each whole
message is taken as a text. A fault ends the reading, and so does the packet with
which a server closes the socket.
-/

namespace ResourceWatch.Socket

/-- Something that arrived. -/
inductive Arrival where
  | text (text : String)
  | fault (reason : String)
  | ping (payload : List UInt8)
  | closed
  deriving DecidableEq, Repr

/-- The bytes that are not yet read, and the message whose last part has not yet
come. -/
structure Reader where
  buffer : List UInt8
  begun : Option (List UInt8)
  deriving DecidableEq, Repr

namespace Reader

def new (buffer : List UInt8) : Reader := ⟨buffer, none⟩

/-- A whole message as a text, whether it was sent as one or not. -/
def textOf (message : List UInt8) : Arrival :=
  match String.fromUTF8? (ByteArray.mk message.toArray) with
  | some text => .text text
  | none => .fault "the message is no text"

/-- Takes a part of a message: a first part where none is begun, and a continuation
where one is. -/
def takePart (reader : Reader) (packet : Packet) : Reader × Option Arrival :=
  match packet.opcode, reader.begun with
  | .continuation, none => (reader, some (.fault "a continuation of nothing"))
  | .continuation, some begun =>
    let message := begun ++ packet.payload
    if packet.final then ({ reader with begun := none }, some (textOf message))
    else ({ reader with begun := some message }, none)
  | _, some _ => (reader, some (.fault "a message inside a message"))
  | _, none =>
    if packet.final then (reader, some (textOf packet.payload))
    else ({ reader with begun := some packet.payload }, none)

/-- Takes a packet. -/
def takePacket (reader : Reader) (packet : Packet) : Reader × Option Arrival :=
  match packet.opcode with
  | .close => (reader, some .closed)
  | .ping => (reader, some (.ping packet.payload))
  | .pong => (reader, none)
  | _ => reader.takePart packet

/-- Whether nothing is read after an arrival. -/
def isLast : Arrival → Bool
  | .fault _ | .closed => true
  | .text _ | .ping _ => false

/-- Reads the packets that are complete, at most some number of them. -/
def run : Nat → Reader → Reader × List Arrival
  | 0, reader => (reader, [])
  | fuel + 1, reader =>
    match Packet.read reader.buffer with
    | .incomplete => (reader, [])
    | .malformed => (reader, [.fault "the packet is malformed"])
    | .packet packet rest =>
      let (next, arrival) := takePacket { reader with buffer := rest } packet
      if arrival.any isLast then (next, arrival.toList)
      else
        let (last, more) := run fuel next
        (last, arrival.toList ++ more)

/-- Takes bytes from the socket. Every packet has at least two bytes, which bounds
the reading. -/
def feed (reader : Reader) (bytes : List UInt8) : Reader × List Arrival :=
  let filled := { reader with buffer := reader.buffer ++ bytes }
  run (filled.buffer.length + 1) filled

end Reader

end ResourceWatch.Socket
