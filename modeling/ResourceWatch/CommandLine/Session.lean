import ResourceWatch.CommandLine.Invocation
import ResourceWatch.Registry.Engine

/-! # Sessions

A run of the program from its start to its end: it checks what it was asked to do,
opens one stream, and prints lines as the world changes. What happens around a run,
the network and the passing of time, is the engine's; a session says what is printed
and when the run is over.
-/

namespace ResourceWatch.CommandLine

/-- A text filled up with blanks to a width. A longer text stays as it is. -/
def padTo (width : Nat) (text : String) : String :=
  text ++ String.ofList (List.replicate (width - text.length) ' ')

/-- The lines that list the kinds and the paths of their streams. -/
def kindLines : OutputFormat → List String
  | .human => Kind.all.map fun kind => padTo 12 kind.plural ++ " " ++ kind.watchPath
  | .json => Kind.all.map fun kind => (Json.string kind.name).render

/-- The lines that list the objects of a view, with their ages at a second. -/
def viewLines (output : OutputFormat) (view : View) (now : Int) : List String :=
  match output with
  | .human =>
    (padTo 40 "NAME" ++ " AGE") ::
      view.toList.map fun (name, object) => padTo 40 name ++ " " ++ object.renderAge now
  | .json =>
    (Text.splitOn '\n'
      (Json.writeIndented 0 (.array (view.toList.map fun (_, object) => object.payload)))).map
      String.ofList

/-- The line for a change of a view. -/
def changeLine (output : OutputFormat) (kind : Kind) (env : String) (change : Change) : String :=
  match output with
  | .human => change.line
  | .json => change.dataLine kind env

/-- The line for a line of a log. -/
def logLine (output : OutputFormat) (pod line : String) : String :=
  match output with
  | .human => line
  | .json => (Json.ofMembers [("pod", .string pod), ("line", .string line)]).render

/-- What a session follows, with what it has already shown of it. -/
inductive Following where
  | list (kind : Kind) (env : String) (selector : Option Selector) (deadline : Nat)
  | watch (kind : Kind) (env : String) (selector : Option Selector) (shown : View)
  | logs (env pod shown : String)

/-- A session with its engine. -/
structure Session where
  output : OutputFormat
  following : Following
  engine : Engine

/-- The start of a run: lines that are all there is to print, or a session. -/
inductive Start where
  | printed (lines : List String)
  | session (session : Session)

/-- Why a run does not start: settings or arguments that cannot be used, or a wait
that ends later than the clock can count. -/
inductive StartFault where
  | unusable (message : String)
  | endlessWait
  deriving DecidableEq, Repr

namespace StartFault

/-- The status with which the program ends. -/
def exitCode : StartFault → Nat
  | unusable _ => 1
  | endlessWait => 101

/-- The wording of the fault, as the last line of a run. -/
def message : StartFault → String
  | unusable message => "Error: " ++ message
  | endlessWait => "Error: the time to wait is too long"

end StartFault

namespace Session

/-- Reads the selector of a command. -/
def readSelector : Option String → Except StartFault (Option Selector)
  | none => .ok none
  | some text =>
    match Selector.parse text with
    | .ok selector => .ok (some selector)
    | .error fault => .error (.unusable ("invalid selector: " ++ fault.message))

/-- Reads the kind of a command, and then its selector. -/
def readTarget (kind : String) (selector : Option String) :
    Except StartFault (Kind × Option Selector) :=
  match Kind.parse kind with
  | .error unknown => .error (.unusable unknown.message)
  | .ok kind => (readSelector selector).map fun selector => (kind, selector)

/-- The number of seconds that a clock can count. -/
def clockSeconds : Nat := 9223372036854775808

/-- The time at which a list gives up, in milliseconds from the start of the run. The
clock, which reads some seconds by then, must be able to count that far. -/
def listDeadline (clock : Nat) (waitSeconds : UInt64) : Except StartFault Nat :=
  if clock + waitSeconds.toNat < clockSeconds then .ok (1000 * waitSeconds.toNat)
  else .error .endlessWait

/-- The filter that leaves the work of a selector to the server. -/
def filterOf : Option Selector → QueryFilter
  | none => .none
  | some selector => .ofLabels selector

/-- The session that follows something once its stream is opened. -/
def opened (output : OutputFormat) (engine : Engine) (following : Following)
    (result : Except Failure Registry) : Except StartFault Start :=
  match result with
  | .ok registry =>
    .ok (.session ⟨output, following, { engine with registry := registry }⟩)
  | .error failure => .error (.unusable failure.message)

/-- Starts a run when the clock reads some seconds. The settings are checked before the
arguments of the command, and the list of kinds needs none. -/
def start (clock : Nat) (invocation : Invocation) : Except StartFault Start :=
  let output := invocation.output
  match invocation.command with
  | .kinds => .ok (.printed (kindLines output))
  | command =>
    match invocation.config with
    | .error failure => .error (.unusable failure.message)
    | .ok config =>
      let engine := Engine.new config none
      match command with
      -- The kinds are listed above already, with settings that are usable or not.
      | .kinds => .ok (.printed (kindLines output))
      | .list kind env selector waitSeconds =>
        (readTarget kind selector).bind fun (kind, selector) =>
          (listDeadline clock waitSeconds).bind fun deadline =>
            opened output engine (.list kind env selector deadline)
              (engine.registry.subscribe kind env (filterOf selector))
      | .watch kind env selector =>
        (readTarget kind selector).bind fun (kind, selector) =>
          opened output engine (.watch kind env selector .empty)
            (engine.registry.subscribe kind env (filterOf selector))
      | .logs env pod =>
        opened output engine (.logs env pod "") (engine.registry.subscribeLog env pod)

variable (session : Session)

/-- Whether the run is over: a list ends with the first write to the world or when it
has waited long enough. -/
def isOver : Bool :=
  match session.following with
  | .list _ _ _ deadline =>
    0 < session.engine.registry.world.epoch || deadline ≤ session.engine.now
  | _ => false

/-- What the world has that was not shown yet, as lines. -/
def observe : Session × List String :=
  let registry := session.engine.registry
  match session.following with
  | .list _ _ _ _ => (session, [])
  | .watch kind env selector shown =>
    let next := registry.view kind env selector
    ({ session with following := .watch kind env selector next },
      (shown.changes next).map (changeLine session.output kind env))
  | .logs env pod shown =>
    match (registry.world.record? .pod env pod).bind Record.log with
    | none => (session, [])
    | some text =>
      ({ session with following := .logs env pod text },
        (Log.newLines shown text).map (logLine session.output pod))

/-- The lines that a run prints at its end, at a second of universal time. -/
def close (now : Int) : List String :=
  match session.following with
  | .list kind env selector _ =>
    viewLines session.output (session.engine.registry.view kind env selector) now
  | _ => []

/-- Lets a span of time pass, in milliseconds, and everything happen that is ready by
then. -/
def advance (span : Nat) : Session :=
  { session with engine := session.engine.sleep span }

/-- How long a run waits if nothing is sent to it: the time until a list gives
up. -/
def patience : Option Nat :=
  match session.following with
  | .list _ _ _ deadline => some (deadline - session.engine.now)
  | _ => none

end Session

end ResourceWatch.CommandLine
