import ResourceWatch.CommandLine.Arguments
import ResourceWatch.Config
import ResourceWatch.Number.Word

/-! # Invocations

What a run of the program is asked to do: a command with its own arguments, and the
settings that every command shares. A shared setting may stand before or after the
name of the command, the later place counts, and a variable stands in for a setting
that is not given.
-/

namespace ResourceWatch.CommandLine

/-- How results are printed. -/
inductive OutputFormat where
  | human
  | json
  deriving DecidableEq, Repr

def OutputFormat.name : OutputFormat → String
  | human => "human"
  | json => "json"

/-- A command with its arguments, which are texts as they were given. -/
inductive Command where
  | kinds
  | list (kind env : String) (selector : Option String) (waitSeconds : UInt64)
  | watch (kind env : String) (selector : Option String)
  | logs (env pod : String)
  deriving DecidableEq, Repr

/-- What a run is asked to do. -/
structure Invocation where
  output : OutputFormat
  origin : Option String
  reconnectDelay : Option UInt64
  quietWindow : Option UInt64
  command : Command
  deriving DecidableEq, Repr

def anyText (_ : String) : Option UsageFault := none

/-- The word that a text denotes. Blanks are not allowed around it. -/
def wordOf? (text : String) : Option UInt64 :=
  (readWord text.toList).toOption

/-- Only a word can be the value. -/
def wordText (text : String) : Option UsageFault :=
  if (wordOf? text).isSome then none else some .valueMalformed

/-- Only the name of a format can be the value. -/
def formatText (text : String) : Option UsageFault :=
  if text = OutputFormat.human.name ∨ text = OutputFormat.json.name then none
  else some .valueNotAllowed

/-- The options that every command has. -/
def sharedOptions : List OptionSpec :=
  [⟨"output", some 'o', none, formatText⟩,
    ⟨"origin", none, some Config.originVariable, anyText⟩,
    ⟨"reconnect-ms", none, some Config.reconnectVariable, wordText⟩,
    ⟨"debounce-ms", none, some Config.quietVariable, wordText⟩]

def envOption : OptionSpec := ⟨"env", some 'e', none, anyText⟩

def selectorOption : OptionSpec := ⟨"selector", some 'l', none, anyText⟩

def waitOption : OptionSpec := ⟨"wait-secs", none, none, wordText⟩

/-- What stands before the name of a command. -/
def programGrammar : Grammar :=
  ⟨sharedOptions, [], ["kinds", "ls", "watch", "logs", "help"], true⟩

/-- What a command accepts: options, positional values and the shared options. -/
def commandGrammar (options : List OptionSpec) (positionals : List String) : Grammar :=
  ⟨options ++ sharedOptions, positionals, [], false⟩

/-- The grammar of a command. -/
def grammarOf (name : String) : Grammar :=
  match name with
  | "ls" => commandGrammar [envOption, selectorOption, waitOption] ["kind"]
  | "watch" => commandGrammar [envOption, selectorOption] ["kind"]
  | "logs" => commandGrammar [] ["environment", "pod"]
  | _ => commandGrammar [] []

/-- How long a list waits for its first objects where nothing is said, in
seconds. -/
def defaultWait : UInt64 := 8

/-- The command of a name with what was read for it, if nothing is missing. -/
def commandOf? (name : String) (scan : Scan) : Option Command :=
  match name with
  | "ls" => do
    let wait := ((scan.value? "wait-secs").bind wordOf?).getD defaultWait
    return .list (← scan.value? "kind") (← scan.value? "env") (scan.value? "selector") wait
  | "watch" => do
    return .watch (← scan.value? "kind") (← scan.value? "env") (scan.value? "selector")
  | "logs" => do
    return .logs (← scan.value? "environment") (← scan.value? "pod")
  | _ => some .kinds

/-- The value of a shared option: given after the name of the command, or before it,
or in its variable. -/
def sharedValue? (lookup : String → Option String) (before after : Scan) (name : String) :
    Option String :=
  ((after.value? name).or (before.value? name)).or <|
    (sharedOptions.find? fun option => option.name = name).bind fun option =>
      option.variableName.bind lookup

/-- Reads the part of the arguments from the name of a command on. -/
def readCommand (lookup : String → Option String) (name : String) (arguments : List String) :
    Except UsageFault (Scan × Command) :=
  if name = "help" then .error (helpFault programGrammar.commands arguments)
  else
    let grammar := grammarOf name
    match scanArguments grammar .start arguments with
    | .error fault => .error fault
    | .ok (.command _ _ _) => .error .unknownArgument
    | .ok (.all scan) =>
      (finishScan lookup grammar scan).bind fun finished =>
        match commandOf? name finished with
        | some command => .ok (finished, command)
        | none => .error .missingArgument

/-- Whether a setting was given or stands in a variable. -/
def anythingGiven (lookup : String → Option String) (scan : Scan) : Bool :=
  !scan.given.isEmpty ||
    sharedOptions.any fun option => (option.variableName.bind lookup).isSome

/-- Reads the arguments of the program. A fault in a command comes before a fault in
what stands before its name. -/
def Invocation.parse (lookup : String → Option String) (arguments : List String) :
    Except UsageFault Invocation :=
  match scanArguments programGrammar .start arguments with
  | .error fault => .error fault
  | .ok (.all scan) =>
    (finishScan lookup programGrammar scan).bind fun finished =>
      .error (if anythingGiven lookup finished then .missingCommand else .nothingGiven)
  | .ok (.command scan name rest) =>
    (readCommand lookup name rest).bind fun (after, command) =>
      (finishScan lookup programGrammar scan).map fun before =>
        let shared := sharedValue? lookup before after
        { output := if shared "output" = some OutputFormat.json.name then .json else .human
          origin := shared "origin"
          reconnectDelay := (shared "reconnect-ms").bind wordOf?
          quietWindow := (shared "debounce-ms").bind wordOf?
          command := command }

/-- The settings of a run, where defaults stand in for what is not said. The origin
must give addresses. -/
def Invocation.config (invocation : Invocation) : Except Failure Config :=
  let config : Config :=
    { origin := invocation.origin.getD Config.default.origin
      reconnectDelay := invocation.reconnectDelay.getD Config.default.reconnectDelay
      quietWindow := invocation.quietWindow.getD Config.default.quietWindow }
  config.validate.map fun _ => config

end ResourceWatch.CommandLine
