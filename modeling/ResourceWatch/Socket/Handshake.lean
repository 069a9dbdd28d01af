import ResourceWatch.Socket.Digest
import ResourceWatch.Socket.Endpoint
import ResourceWatch.Text.Blank

/-! # Handshakes

How a socket is opened: a request with a random key, and a response that must agree
to switch protocols and show that the server has seen the key. The bytes after the
response belong to the open socket.
-/

namespace ResourceWatch.Socket

namespace Handshake

def lineEnd : List Char := ['\r', '\n']

def keyOf (random : List UInt8) : String := String.ofList (base64 random)

/-- The request for a socket. -/
def request (endpoint : Endpoint) (key : String) : String :=
  String.intercalate "\r\n"
    ["GET " ++ endpoint.resource ++ " HTTP/1.1", "Host: " ++ endpoint.authority,
      "Connection: Upgrade", "Upgrade: websocket", "Sec-WebSocket-Version: 13",
      "Sec-WebSocket-Key: " ++ key, "", ""]

/-- What is hashed together with a key. -/
def salt : String := "258EAFA5-E914-47DA-95CA-C5AB0DC85B11"

/-- The answer that shows that the server has seen a key. -/
def proofOf (key : String) : List Char :=
  base64 (secureHash ((key ++ salt).toList.flatMap String.utf8EncodeChar))

/-- The name and the value of a header line. Names do not tell case apart. -/
def readHeader (line : List Char) : Option (List Char × List Char) :=
  (Text.cutAt [':'] line).map fun (name, value) => (name.map Char.toLower, Text.trim value)

/-- Whether headers have a value under a name, in any case of letters. -/
def carries (headers : List (List Char × List Char)) (name value : String) : Bool :=
  headers.any fun header =>
    header.1 = name.toList && header.2.map Char.toLower = value.toList

/-- Whether the lines of a response open a socket for a key. -/
def agrees (key : String) (head : List Char) : Bool :=
  match Text.lines head with
  | [] => false
  | status :: lines =>
    let headers := lines.filterMap readHeader
    (Text.splitOn ' ' status)[1]? = some ['1', '0', '1'] &&
      carries headers "upgrade" "websocket" && carries headers "connection" "upgrade" &&
      headers.any fun header =>
        header.1 = "sec-websocket-accept".toList && header.2 = proofOf key

/-- What the bytes of a response so far say. -/
inductive Outcome where
  | incomplete
  | refused
  | opened (rest : List UInt8)
  deriving DecidableEq, Repr

/-- How long the head of a response may be. -/
def maxHead : Nat := 65536

/-- Reads a response to the request with a key. -/
def read (key : String) (bytes : List UInt8) : Outcome :=
  let text := bytes.map fun byte => Char.ofNat byte.toNat
  match Text.cutAt (lineEnd ++ lineEnd) text with
  | some (head, _) =>
    if agrees key head then .opened (bytes.drop (head.length + 4)) else .refused
  | none => if bytes.length < maxHead then .incomplete else .refused

end Handshake

end ResourceWatch.Socket
