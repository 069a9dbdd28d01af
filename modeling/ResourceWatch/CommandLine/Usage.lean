import ResourceWatch.CommandLine.Arguments

/-! # Help

What the program says about its own use: an overview of its commands, and a sentence
for each fault in its arguments.
-/

namespace ResourceWatch.CommandLine

/-- The overview of commands and options. -/
def usageLines : List String :=
  ["Follow live dashboard resources and pod logs", "",
    "Commands:",
    "  kinds              List the kinds of resources",
    "  ls KIND            Print the objects of a kind once its first snapshot is there",
    "  watch KIND         Print the changes of the objects of a kind",
    "  logs ENV POD       Print the log of a pod as it grows",
    "  help               Print this overview", "",
    "Options of ls and watch:",
    "  -e, --env ENV            The environment, which must be given",
    "  -l, --selector SELECTOR  Only objects with such labels",
    "      --wait-secs SECONDS  How long ls waits for the first snapshot", "",
    "Options of every command:",
    "  -o, --output FORMAT      human or json",
    "      --origin ORIGIN      The origin of the dashboard",
    "      --reconnect-ms SPAN  The delay before a stream is opened again",
    "      --debounce-ms SPAN   The quiet window of snapshots and logs",
    "  -h, --help               Print this overview"]

/-- The sentence for a fault in the arguments. -/
def UsageFault.message : UsageFault → String
  | helpAsked | versionAsked => ""
  | nothingGiven | missingCommand => "a command is missing"
  | unknownCommand => "there is no such command"
  | unknownArgument => "there is an argument that the command does not take"
  | missingArgument => "an argument that the command needs is missing"
  | repeatedArgument => "an option is given more than once"
  | valueNotAllowed => "an option has no value, or one that is not among its values"
  | valueMalformed => "the value of an option is no number that fits"
  | surplusValue => "a value is given to a flag that takes none"

end ResourceWatch.CommandLine
