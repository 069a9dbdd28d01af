import ResourceWatch.Event
import ResourceWatch.Json.Printer
import ResourceWatch.Text.Split

/-! # Pod logs

The text of a log is kept newest first: what is appended goes in front, on a line of
its own. `newLines` says which lines of a text somebody has not seen who saw an
earlier one.
-/

namespace ResourceWatch

/-- A change of a log. -/
inductive LogEvent where
  | start (text : String)
  | append (text : String)
  deriving DecidableEq, Repr

namespace LogEvent

/-- The text of a payload: a string as it is, any other value in compact form. -/
def payloadText : Json → String
  | .string text => text
  | value => value.render

/-- The change of a log that a watch event stands for. A snapshot starts the log
with its items on lines, and a deletion changes nothing. -/
def ofWatch? : WatchEvent → Option LogEvent
  | .init items => some (.start ("\n".intercalate (items.map payloadText)))
  | .added object => some (.append (payloadText object))
  | .modified object => some (.append (payloadText object))
  | .deleted _ => none

end LogEvent

namespace Log

/-- The text of a log after a change. A log that was never set is not an empty
one. -/
def step (log : Option String) : LogEvent → String
  | .start text => text
  | .append text =>
    match log with
    | some previous => text ++ "\n" ++ previous
    | none => text

/-- The log after a list of changes. -/
def run (log : Option String) (events : List LogEvent) : Option String :=
  events.foldl (fun log event => some (step log event)) log

/-- The part of a text in front of an earlier text that it ends with. Any other text
is all new. -/
def freshPart (earlier text : List Char) : List Char :=
  -- Every text ends with the empty one, which says nothing about what was seen.
  if earlier.isEmpty then text
  else
    match Text.beforeEnd earlier text with
    | some head => (Text.beforeEnd ['\n'] head).getD head
    | none => text

/-- The lines of a text that an earlier text does not have, oldest first. -/
def newLines (earlier text : String) : List String :=
  (Text.lines (freshPart earlier.toList text.toList)).reverse.map String.ofList

end Log

end ResourceWatch
