import ResourceWatch.Text.Split

/-! # Command-line arguments

Reading the arguments of one command: options with a value after a long or a short
name, positional values, and the name of a subcommand, at which the rest belongs to
that subcommand. The value of an option is checked when the next thing is recognized,
so a fault in what follows can come before a fault in the value.
-/

namespace ResourceWatch.CommandLine

/-- Why arguments do not make an invocation, or what they ask to be shown. -/
inductive UsageFault where
  | helpAsked
  | versionAsked
  | nothingGiven
  | missingCommand
  | unknownCommand
  | unknownArgument
  | missingArgument
  | repeatedArgument
  | valueNotAllowed
  | valueMalformed
  | surplusValue
  deriving DecidableEq, Repr

namespace UsageFault

/-- The status with which a program ends. To show what was asked for is no
error. -/
def exitCode : UsageFault → Nat
  | helpAsked | versionAsked => 0
  | _ => 2

end UsageFault

/-- An option that takes a value. The value can come from a variable when the option
is not given. -/
structure OptionSpec where
  name : String
  letter : Option Char
  variableName : Option String
  check : String → Option UsageFault

/-- What one command accepts. Help is always accepted. -/
structure Grammar where
  options : List OptionSpec
  positionals : List String
  commands : List String
  hasVersion : Bool

/-- An option whose value is not yet checked, or not yet given. -/
structure PendingOption where
  option : OptionSpec
  value : Option String

/-- What was read so far: values by name, the option that is not finished, the number
of positional values, and whether only such values can follow. -/
structure Scan where
  given : List (String × String)
  pending : Option PendingOption
  placed : Nat
  trailing : Bool

namespace Scan

def start : Scan := ⟨[], none, 0, false⟩

variable (scan : Scan)

/-- The value of a name. -/
def value? (name : String) : Option String :=
  (scan.given.find? fun entry => entry.1 = name).map Prod.snd

/-- Whether the next argument can only be the value of an option. -/
def awaitsValue : Bool :=
  match scan.pending with
  | some pending => pending.value.isNone && !scan.trailing
  | none => false

/-- Keeps the value of an option. An option can be given once, and that is looked at
before its value. -/
def keep (option : OptionSpec) (value : String) : Except UsageFault Scan :=
  if (scan.value? option.name).isSome then .error .repeatedArgument
  else
    match option.check value with
    | some fault => .error fault
    | none => .ok { scan with given := scan.given ++ [(option.name, value)] }

/-- Finishes the option that is not finished. -/
def finish : Except UsageFault Scan :=
  match scan.pending with
  | none => .ok scan
  | some ⟨_, none⟩ => .error .valueNotAllowed
  | some ⟨option, some value⟩ => keep { scan with pending := none } option value

/-- Takes an option with a value attached to it, or one whose value follows. -/
def takeOption (option : OptionSpec) (attached : Option String) : Except UsageFault Scan :=
  (scan.finish).bind fun finished =>
    match attached with
    | some value => finished.keep option value
    | none => .ok { finished with pending := some ⟨option, none⟩ }

/-- Ends with what a flag asks to be shown, unless an option before it is faulty. -/
def showInstead (asked : UsageFault) : Except UsageFault Scan :=
  (scan.finish).bind fun _ => .error asked

/-- Takes a positional value. A command that has subcommands instead of such values
misses the name of one. -/
def takePositional (grammar : Grammar) (value : String) : Except UsageFault Scan :=
  match grammar.positionals[scan.placed]? with
  | some name =>
    (scan.finish).map fun finished =>
      { finished with given := finished.given ++ [(name, value)], placed := finished.placed + 1 }
  | none =>
    if grammar.commands.isEmpty then .error .unknownArgument
    -- Behind two dashes the name of a subcommand is a value like any other.
    else if scan.trailing && grammar.commands.contains value then .error .unknownArgument
    else .error .unknownCommand

/-- Takes an argument that begins with two dashes, without them. -/
def takeLong (grammar : Grammar) (body : List Char) : Except UsageFault Scan :=
  let (name, attached) :=
    match Text.cutAt ['='] body with
    | some (name, value) => (String.ofList name, some (String.ofList value))
    | none => (String.ofList body, none)
  match grammar.options.find? fun option => option.name = name with
  | some option => scan.takeOption option attached
  | none =>
    if name = "help" ∨ (name = "version" ∧ grammar.hasVersion) then
      if attached.isSome then .error .surplusValue
      else scan.showInstead (if name = "help" then .helpAsked else .versionAsked)
    else .error .unknownArgument

/-- Takes an argument that begins with one dash, without it. The first letter
decides: what follows the letter of an option is its value, after an equality sign or
not. -/
def takeShort (grammar : Grammar) (letter : Char) (rest : List Char) : Except UsageFault Scan :=
  match grammar.options.find? fun option => option.letter = some letter with
  | some option =>
    let attached :=
      match rest with
      | [] => none
      | '=' :: value => some (String.ofList value)
      | value => some (String.ofList value)
    scan.takeOption option attached
  | none =>
    if letter = 'h' then scan.showInstead .helpAsked
    else if letter = 'V' ∧ grammar.hasVersion then scan.showInstead .versionAsked
    else .error .unknownArgument

/-- Takes an argument that names no subcommand. -/
def take (grammar : Grammar) (argument : String) : Except UsageFault Scan :=
  if scan.trailing then scan.takePositional grammar argument
  else
    match argument.toList, scan.pending with
    | ['-', '-'], _ => .ok { scan with trailing := true }
    | '-' :: '-' :: body, _ => scan.takeLong grammar body
    | '-' :: letter :: rest, _ => scan.takeShort grammar letter rest
    | _, some ⟨option, none⟩ => .ok { scan with pending := some ⟨option, some argument⟩ }
    | _, _ => scan.takePositional grammar argument

end Scan

/-- Where reading the arguments of a command ends: at their end, or at the name of a
subcommand with the arguments after it. -/
inductive Scanned where
  | all (scan : Scan)
  | command (scan : Scan) (name : String) (rest : List String)

/-- Reads the arguments of a command. The name of a subcommand is no such name where
a value is awaited or only positional values can follow. -/
def scanArguments (grammar : Grammar) (scan : Scan) : List String → Except UsageFault Scanned
  | [] => .ok (.all scan)
  | argument :: rest =>
    if !scan.trailing && !scan.awaitsValue && grammar.commands.contains argument then
      .ok (.command scan argument rest)
    else
      match scan.take grammar argument with
      | .error fault => .error fault
      | .ok next => scanArguments grammar next rest

/-- Whether the arguments of the help command name a subcommand to show help for, or
nothing. -/
def helpFault (commands : List String) : List String → UsageFault
  | [] => .helpAsked
  | [name] => if commands.contains name then .helpAsked else .unknownCommand
  | _ => .unknownCommand

/-- Checks the variables of the options that were not given. -/
def checkVariables (lookup : String → Option String) (scan : Scan) :
    List OptionSpec → Except UsageFault Unit
  | [] => .ok ()
  | option :: rest =>
    let value := if (scan.value? option.name).isSome then none else option.variableName.bind lookup
    match value.bind option.check with
    | some fault => .error fault
    | none => checkVariables lookup scan rest

/-- Finishes the reading of a command: its last option, and then the variables. -/
def finishScan (lookup : String → Option String) (grammar : Grammar) (scan : Scan) :
    Except UsageFault Scan :=
  (scan.finish).bind fun finished =>
    (checkVariables lookup finished grammar.options).map fun _ => finished

end ResourceWatch.CommandLine
