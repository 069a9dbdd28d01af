import ResourceWatch.Address
import ResourceWatch.Failure

/-! # Configuration

The origin of the dashboard and the two spans of time that govern streams. A
configuration can be read from named variables or from data, and is usable when its
origin gives addresses.
-/

namespace ResourceWatch

/-- The settings of a registry. Spans are in milliseconds. -/
structure Config where
  origin : String
  reconnectDelay : UInt64
  quietWindow : UInt64
  deriving DecidableEq, Repr

namespace Config

/-- The settings that hold where nothing else is said. -/
def default : Config := ⟨"http://127.0.0.1:8080", 5000, 200⟩

instance : Inhabited Config := ⟨default⟩

def originVariable : String := "KDASH_ORIGIN"

def reconnectVariable : String := "KDASH_RECONNECT_MS"

def quietVariable : String := "KDASH_DEBOUNCE_MS"

/-- Checks that the origin gives addresses. -/
def validate (config : Config) : Except Failure Unit :=
  match streamAddress config.origin "/" [] with
  | .ok _ => .ok ()
  | .error fault => .error (.config fault.message)

/-- An origin that is usable gives an address for every path and query. -/
theorem exists_streamAddress {config : Config} (husable : config.validate = .ok ())
    (path : String) (query : List (String × String)) :
    ∃ url, streamAddress config.origin path query = .ok url := by
  unfold validate streamAddress at husable
  unfold streamAddress
  cases hparse : Origin.parse config.origin with
  | error fault => simp [hparse, Except.map] at husable
  | ok origin => exact ⟨origin.address path query, rfl⟩

/-- Reads a span from a variable, with blanks around it or not. The message of a
fault repeats the text as it was given. -/
def readSpan (variableName : String) (default : UInt64) (value : Option String) :
    Except Failure UInt64 :=
  match value with
  | none => .ok default
  | some text =>
    match readWord (Text.trim text.toList) with
    | .ok span => .ok span
    | .error fault =>
      .error (.config (variableName ++ "=" ++ Text.quoted text ++ ": " ++ fault.message))

/-- Reads the settings from variables. The spans are looked at before the origin. -/
def ofVariables (lookup : String → Option String) : Except Failure Config := do
  let reconnectDelay ←
    readSpan reconnectVariable default.reconnectDelay (lookup reconnectVariable)
  let quietWindow ← readSpan quietVariable default.quietWindow (lookup quietVariable)
  let config := ⟨(lookup originVariable).getD default.origin, reconnectDelay, quietWindow⟩
  config.validate
  return config

/-- The settings as members of an object. -/
def members (config : Config) : List (String × Json) :=
  [("origin", .string config.origin), ("reconnect_delay_ms", .ofWord config.reconnectDelay),
    ("debounce_ms", .ofWord config.quietWindow)]

/-- The text of a document that is a string. -/
def textOf? : Document → Option String
  | .string text => text
  | _ => none

/-- The word of a document that is an integer of 64 bits without a sign. -/
def wordOf? : Document → Option UInt64
  | .number (some (.int n)) => if 0 ≤ n.val then some (UInt64.ofNat n.val.toNat) else none
  | _ => none

/-- What a reader makes of the only member with a key. -/
def soleMember? {α : Type} (read : Document → Option α) (key : String)
    (members : List (Option String × Document)) : Option α :=
  match Document.named key members with
  | [value] => read value
  | _ => none

/-- Reads the settings from a document: an object with each of them once, or an
array of them in order. -/
def ofDocument? : Document → Option Config
  | .object members =>
    if Document.keysReadable members then do
      return ⟨← soleMember? textOf? "origin" members,
        ← soleMember? wordOf? "reconnect_delay_ms" members,
        ← soleMember? wordOf? "debounce_ms" members⟩
    else none
  | .array [origin, reconnectDelay, quietWindow] => do
    return ⟨← textOf? origin, ← wordOf? reconnectDelay, ← wordOf? quietWindow⟩
  | _ => none

/-- Reads the settings from text. -/
def ofText? (text : String) : Option Config :=
  (Document.ofText? text).bind ofDocument?

end Config

end ResourceWatch
