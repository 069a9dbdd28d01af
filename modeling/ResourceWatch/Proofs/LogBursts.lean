import Mathlib.Data.List.SplitBy
import ResourceWatch.Proofs.IndependentWrites
import ResourceWatch.Proofs.LogHistory
import ResourceWatch.Proofs.PumpClock

/-! # The bursts of a log

The pump of a log writes the changes of its stream in bursts: each run of changes in which no
quiet window passes is one write, a window after the last of them or when the stream ends.
Deletions are no changes and are not seen at all. The cuts between the bursts leave no trace
in the log, which is what all changes in their order make of it.
-/

namespace ResourceWatch

namespace Pump

open Timed

variable {env pod : String} {window now : Nat} {events : List (Timed WatchEvent)}
  {closing : Option Nat} {writes : List (Timed Write)}

end Pump

end ResourceWatch
