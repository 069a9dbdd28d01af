import ResourceWatch.Number.Word
import ResourceWatch.Text.Split

/-! # Endpoints

Where the address of a stream leads: a host and the number of its service, and what to
ask of it. The scheme of the address says whether the connection is to be secure.
-/

namespace ResourceWatch.Socket

/-- The parts of an address. The authority is the host with the number of its service
as the address has them. -/
structure Endpoint where
  secure : Bool
  authority : String
  host : String
  service : UInt16
  resource : String
  deriving DecidableEq, Repr

namespace Endpoint

def endsAuthority (c : Char) : Bool := c = '/' || c = '?' || c = '#'

/-- Reads the number of a service. Nothing after the colon stands for the standard
number of the scheme. -/
def readService (standard : UInt16) (text : List Char) : Option UInt16 :=
  if text.isEmpty then some standard
  else
    match readWordDigits 0 text with
    | .ok n => if n < 65536 then some (UInt16.ofNat n) else none
    | .error _ => none

/-- Reads a host and the number of its service. A host in brackets may have colons of
its own. -/
def readHost (standard : UInt16) (authority : List Char) : Option (List Char × UInt16) :=
  match authority with
  | '[' :: rest =>
    (Text.cutAt [']'] rest).bind fun (host, tail) =>
      match tail with
      | [] => some (host, standard)
      | ':' :: number => (readService standard number).map (host, ·)
      | _ => none
  | _ =>
    match Text.cutAt [':'] authority with
    | some (host, number) => (readService standard number).map (host, ·)
    | none => some (authority, standard)

/-- What is asked of the host: path and query, at least a slash, and no fragment. -/
def resourceOf (text : List Char) : List Char :=
  let asked := text.takeWhile fun c => c ≠ '#'
  if (Text.afterStart ['/'] asked).isSome then asked else '/' :: asked

/-- Reads the address of a stream. -/
def parse? (address : String) : Option Endpoint := do
  let (scheme, rest) ← Text.cutAt [':', '/', '/'] address.toList
  let secure := scheme = ['w', 's', 's']
  let authority := rest.takeWhile fun c => !endsAuthority c
  let (host, service) ← readHost (if secure then 443 else 80) authority
  let resource := resourceOf (rest.dropWhile fun c => !endsAuthority c)
  if host.isEmpty then none
  else
    return ⟨secure, String.ofList authority, String.ofList host, service,
      String.ofList resource⟩

end Endpoint

end ResourceWatch.Socket
