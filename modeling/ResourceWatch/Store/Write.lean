import ResourceWatch.Log
import ResourceWatch.Store.Basic

/-! # Writing events into a store

A store follows a stream: a snapshot and a change of one object replace the objects
of the names that they carry, and a deletion removes a record with all its fields. A
snapshot removes nothing. Payloads without a name are passed over.
-/

namespace ResourceWatch

namespace Store

variable (store : Store)

/-- Replaces the object of the record that a payload names, if it names one. -/
def upsert (env : String) (kind : Kind) (payload : Json) : Store :=
  match objectName? payload with
  | some name => store.editRecord env name fun record => record.setObject ⟨kind, payload⟩
  | none => store

/-- The partition with the objects of the payloads that have names. -/
def upsertAll (kind : Kind) (partition : Partition) (payloads : List Json) : Partition :=
  payloads.foldl
    (fun partition payload =>
      match objectName? payload with
      | some name =>
        partition.update name (.named name) fun record => record.setObject ⟨kind, payload⟩
      | none => partition)
    partition

/-- Applies one event of a stream of a kind. -/
def apply (env : String) (kind : Kind) : WatchEvent → Store
  | .init payloads => store.editPartition env fun partition => upsertAll kind partition payloads
  | .added payload => store.upsert env kind payload
  | .modified payload => store.upsert env kind payload
  | .deleted payload =>
    match objectName? payload with
    | some name => store.remove env name
    | none => store

/-- Applies a batch of changes to the log of a pod. An empty batch changes
nothing. -/
def appendLogs (env pod : String) (events : List LogEvent) : Store :=
  if events.isEmpty then store
  else
    store.editRecord env pod fun record => { record with log := Log.run record.log events }

end Store

end ResourceWatch
