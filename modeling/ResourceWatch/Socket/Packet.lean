/-! # Packets

The units in which an open socket carries messages: a control packet, or a message or
a part of one. What a client sends is hidden under a mask of four bytes, and what a
server sends is not.
-/

namespace ResourceWatch.Socket

/-- What a packet is for. -/
inductive Opcode where
  | continuation
  | text
  | binary
  | close
  | ping
  | pong
  deriving DecidableEq, Repr

namespace Opcode

def code : Opcode → UInt8
  | continuation => 0
  | text => 1
  | binary => 2
  | close => 8
  | ping => 9
  | pong => 10

/-- The purpose of a number. -/
def ofCode? (code : UInt8) : Option Opcode :=
  [continuation, text, binary, close, ping, pong].find? fun opcode => opcode.code = code

/-- Whether a packet of this purpose is about the socket itself. -/
def isControl : Opcode → Bool
  | close | ping | pong => true
  | continuation | text | binary => false

end Opcode

/-- A packet. The last part of a message is final. -/
structure Packet where
  final : Bool
  opcode : Opcode
  payload : List UInt8
  deriving DecidableEq, Repr

namespace Packet

/-- A number as some count of bytes, the most significant first. -/
def bytesOf (n : Nat) : Nat → List UInt8
  | 0 => []
  | count + 1 => UInt8.ofNat (n >>> (8 * count)) :: bytesOf n count

/-- The number that bytes make. -/
def numberOf (bytes : List UInt8) : Nat :=
  bytes.foldl (fun value byte => 256 * value + byte.toNat) 0

/-- Hides bytes under a mask, or shows them again. -/
def applyMask (mask : List UInt8) : List UInt8 → List UInt8
  | [] => []
  | byte :: bytes =>
    match mask with
    | [] => byte :: bytes
    | first :: rest => (byte ^^^ first) :: applyMask (rest ++ [first]) bytes

/-- The size of a payload in the form with a mask: seven bits, or a mark and two or
eight bytes. -/
def maskedSize (size : Nat) : List UInt8 :=
  if size < 126 then [0x80 ||| UInt8.ofNat size]
  else if size < 65536 then 254 :: bytesOf size 2
  else 255 :: bytesOf size 8

/-- The bytes of a packet that a client sends under a mask. -/
def encode (mask : List UInt8) (packet : Packet) : List UInt8 :=
  let first := (if packet.final then 0x80 else 0) ||| packet.opcode.code
  first :: maskedSize packet.payload.length ++ mask ++ applyMask mask packet.payload

/-- What the bytes of a socket so far begin with. -/
inductive Start where
  | incomplete
  | malformed
  | packet (packet : Packet) (rest : List UInt8)
  deriving DecidableEq, Repr

/-- The largest payload that is taken. -/
def maxSize : Nat := 16777216

/-- Reads a payload of a size. -/
def readPayload (final : Bool) (opcode : Opcode) (size : Nat) (bytes : List UInt8) : Start :=
  if maxSize < size ∨ (opcode.isControl ∧ (125 < size ∨ ¬final)) then .malformed
  else if bytes.length < size then .incomplete
  else .packet ⟨final, opcode, bytes.take size⟩ (bytes.drop size)

/-- Reads the size of a payload and the payload. A server that hides its bytes is at
fault. -/
def readSized (final : Bool) (opcode : Opcode) : List UInt8 → Start
  | [] => .incomplete
  | size :: bytes =>
    -- Sizes from 126 on announce a number of two or eight bytes.
    let width := if size = 126 then 2 else 8
    if 128 ≤ size then .malformed
    else if size < 126 then readPayload final opcode size.toNat bytes
    else if bytes.length < width then .incomplete
    else readPayload final opcode (numberOf (bytes.take width)) (bytes.drop width)

/-- Reads the first packet that a server has sent. The bits that nothing was agreed
for must not be set. -/
def read : List UInt8 → Start
  | [] => .incomplete
  | first :: bytes =>
    match Opcode.ofCode? (first &&& 0x0F) with
    | some opcode =>
      if first &&& 0x70 ≠ 0 then .malformed else readSized (first &&& 0x80 ≠ 0) opcode bytes
    | none => .malformed

end Packet

end ResourceWatch.Socket
