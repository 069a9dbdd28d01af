import ResourceWatch.Proofs.LogText
import ResourceWatch.Proofs.RecordHistory

/-! # The history of one log

The log of a pod is one part of a record that many write to. As long as nobody removes the
record, it is what the changes of this log, taken out of all writes in their order, make of
the log that was there.
-/

namespace ResourceWatch

namespace RecordEdit

/-- The changes that an edit makes to the log of its record. -/
def logEvents : RecordEdit → List LogEvent
  | extendLog events => events
  | setObject _ | setField _ _ | remove => []

/-- Any edit but a removal changes the log by its changes, be there a record or not. -/
theorem log_apply {edit : RecordEdit} (hedit : edit ≠ .remove) (name : String)
    (record : Option Record) :
    (edit.apply name record).bind Record.log =
      Log.run (record.bind Record.log) edit.logEvents := by
  cases edit with
  | setObject object => cases record <;> rfl
  | setField field value => cases field <;> cases record <;> rfl
  | extendLog events => rfl
  | remove => exact absurd rfl hedit

theorem log_foldl_apply {edits : List RecordEdit} (hedits : .remove ∉ edits) (name : String)
    (record : Option Record) :
    (edits.foldl (apply name) record).bind Record.log =
      Log.run (record.bind Record.log) (edits.flatMap logEvents) := by
  induction edits generalizing record with
  | nil => rfl
  | cons edit rest ih =>
      obtain ⟨hedit, hrest⟩ := not_or.mp (mt List.mem_cons.mpr hedits)
      rw [List.foldl_cons, ih hrest, log_apply (Ne.symm hedit), List.flatMap_cons,
        Log.run_append]

end RecordEdit

namespace Write

/-- The changes that a write makes to the log of a pod. -/
def logEvents (env pod : String) : Write → List LogEvent
  | appendLogs env' pod' events => if env' = env ∧ pod' = pod then events else []
  | apply _ _ _ | setField _ _ _ _ _ => []

/-- Whether a write removes the record of a pod. -/
def Removes (env pod : String) (write : Write) : Prop := .remove ∈ write.editsOf .pod env pod

theorem flatMap_logEvents_editsOf (env pod : String) (write : Write) :
    (write.editsOf .pod env pod).flatMap RecordEdit.logEvents = write.logEvents env pod := by
  cases write with
  | apply kind env' event =>
      rw [List.flatMap_eq_nil_iff.mpr]
      · rfl
      · intro edit hedit
        simp only [editsOf] at hedit
        cases event <;> grind [WatchEvent.editsOf, RecordEdit.logEvents]
  | appendLogs env' pod' events => grind [editsOf, logEvents, RecordEdit.logEvents]
  | setField kind env' name field value => grind [editsOf, logEvents, RecordEdit.logEvents]

end Write

namespace World

/-- The log of a pod, if it has one. -/
def log? (world : World) (env pod : String) : Option String :=
  (world.record? .pod env pod).bind Record.log

/-- Writes that do not remove the record of a pod leave of its log what their changes of it
make of the log that was there. -/
theorem log?_commitAll {writes : List Write} {env pod : String}
    (hkept : ∀ write ∈ writes, ¬write.Removes env pod) (world : World) :
    (world.commitAll writes).log? env pod =
      Log.run (world.log? env pod) (writes.flatMap (Write.logEvents env pod)) := by
  have hedits : .remove ∉ writes.flatMap (Write.editsOf .pod env pod) := by
    intro hmem
    obtain ⟨write, hwrite, hremove⟩ := List.mem_flatMap.mp hmem
    exact hkept write hwrite hremove
  rw [log?, record?_commitAll, RecordEdit.log_foldl_apply hedits, List.flatMap_assoc]
  simp only [Write.flatMap_logEvents_editsOf]
  rfl

end World

end ResourceWatch
