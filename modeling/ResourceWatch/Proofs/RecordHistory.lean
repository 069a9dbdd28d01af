import Mathlib.Data.List.Induction
import ResourceWatch.World

/-! # The history of one record

A write goes to a whole store, and a snapshot touches many records at once. Seen from
one name, a write is a list of edits of the record of that name, which is empty for
every write that does not address it. The record in a world is what the edits that
address it make of nothing, in the order in which they were written.
-/

namespace ResourceWatch

/-- An edit of one record. -/
inductive RecordEdit where
  | setObject (object : Resource)
  | setField (field : Field) (value : Json)
  | extendLog (events : List LogEvent)
  | remove

/-- What an edit makes of the record of a name, or of nothing. Every edit but a removal
sets one part of the record, which begins as a fresh one where there is none. -/
def RecordEdit.apply (name : String) (record : Option Record) : RecordEdit → Option Record
  | setObject object => some { record.getD (.named name) with object := some object }
  | setField .spec value => some { record.getD (.named name) with spec := some value }
  | setField .repository value =>
    some { record.getD (.named name) with repository := some value }
  | setField .service value => some { record.getD (.named name) with service := some value }
  | extendLog events =>
    some { record.getD (.named name) with log := Log.run (record.bind Record.log) events }
  | remove => none

/-- Of objects that are set one after the other the last one stays. -/
theorem RecordEdit.foldl_setObject (name : String) (record : Option Record)
    (objects : List Resource) :
    (objects.map setObject).foldl (apply name) record =
      match objects.getLast? with
      | some object => apply name record (.setObject object)
      | none => record := by
  induction objects using List.reverseRecOn with
  | nil => rfl
  | append_singleton former object ih =>
      rw [List.map_append, List.foldl_append, ih, List.getLast?_concat]
      cases former.getLast? <;> rfl

/-- The edits of the record of a name that an event of a stream of a kind asks for. The
items of a snapshot count one after the other, and a payload without a name asks for
nothing. -/
def WatchEvent.editsOf (kind : Kind) (name : String) : WatchEvent → List RecordEdit
  | .init payloads =>
    (payloads.filter fun payload => objectName? payload = some name).map fun payload =>
      .setObject ⟨kind, payload⟩
  | .added payload | .modified payload =>
    if objectName? payload = some name then [.setObject ⟨kind, payload⟩] else []
  | .deleted payload => if objectName? payload = some name then [.remove] else []

/-- The edits of one record that a write asks for. Logs belong to pods, and a batch
without changes is no edit. -/
def Write.editsOf (kind : Kind) (env name : String) : Write → List RecordEdit
  | .apply kind' env' event =>
    if kind' = kind ∧ env' = env then event.editsOf kind name else []
  | .appendLogs env' pod events =>
    if Kind.pod = kind ∧ env' = env ∧ pod = name ∧ events ≠ [] then [.extendLog events] else []
  | .setField kind' env' name' field value =>
    if kind' = kind ∧ env' = env ∧ name' = name then [.setField field value] else []

/-! ## Events -/

/-- An item in front of a snapshot asks for what its addition asks for. -/
theorem WatchEvent.editsOf_init_cons (kind : Kind) (name : String) (payload : Json)
    (rest : List Json) :
    (init (payload :: rest)).editsOf kind name =
      (added payload).editsOf kind name ++ (init rest).editsOf kind name := by
  by_cases hname : objectName? payload = some name <;> simp [editsOf, hname]

namespace Store

theorem record?_upsert (store : Store) (env other name : String) (kind : Kind)
    (payload : Json) :
    (store.upsert env kind payload).record? other name =
      if other = env then
        ((WatchEvent.added payload).editsOf kind name).foldl (RecordEdit.apply name)
          (store.record? other name)
      else store.record? other name := by
  simp only [upsert, WatchEvent.editsOf]
  cases hname : objectName? payload with
  | none => simp
  | some found =>
      simp only [record?_editRecord, Option.some.injEq]
      by_cases henv : other = env
      · subst henv
        by_cases hfound : found = name
        · subst hfound
          simp [RecordEdit.apply, Record.setObject]
        · simp [hfound, Ne.symm hfound]
      · simp [henv]

theorem get?_upsertAll (kind : Kind) (partition : Partition) (payloads : List Json)
    (name : String) :
    (upsertAll kind partition payloads).get? name =
      ((WatchEvent.init payloads).editsOf kind name).foldl (RecordEdit.apply name)
        (partition.get? name) := by
  induction payloads generalizing partition with
  | nil => rfl
  | cons payload rest ih =>
      -- The rest of the snapshot goes into the partition that the first item leaves.
      rw [WatchEvent.editsOf_init_cons, List.foldl_append]
      unfold upsertAll at ih ⊢
      rw [List.foldl_cons, ih]
      congr 1
      simp only [WatchEvent.editsOf]
      cases hname : objectName? payload with
      | none => simp
      | some found =>
          by_cases hfound : found = name
          · subst hfound
            simp [OrderedMap.get?_update, RecordEdit.apply, Record.setObject]
          · simp [OrderedMap.get?_update, hfound, Ne.symm hfound]

/-- An event changes the records of its environment by the edits it asks for, and no
others. -/
theorem record?_apply (store : Store) (env other name : String) (kind : Kind)
    (event : WatchEvent) :
    (store.apply env kind event).record? other name =
      if other = env then
        (event.editsOf kind name).foldl (RecordEdit.apply name) (store.record? other name)
      else store.record? other name := by
  cases event with
  | init payloads =>
      simp only [apply, record?_editPartition, get?_upsertAll, get?_partition?_getD]
      split
      next henv => rw [henv]
      next => rfl
  | added payload => exact store.record?_upsert env other name kind payload
  | modified payload => exact store.record?_upsert env other name kind payload
  | deleted payload =>
      simp only [apply, WatchEvent.editsOf]
      cases hname : objectName? payload with
      | none => simp
      | some found =>
          by_cases hfound : found = name
          · subst hfound
            simp [record?_remove, RecordEdit.apply]
          · simp [record?_remove, hfound, Ne.symm hfound]

end Store

/-! ## Writes -/

namespace Write

/-- A write that goes to another store asks for no edit. -/
theorem editsOf_of_kind_ne (write : Write) {kind : Kind} (hkind : kind ≠ write.kind)
    (env name : String) : write.editsOf kind env name = [] := by
  cases write <;> simp_all [editsOf, Write.kind, eq_comm]

/-- On the store of its kind a write changes each record by the edits it asks for. -/
theorem record?_onStore (write : Write) (store : Store) (env name : String) :
    (write.onStore store).record? env name =
      (write.editsOf write.kind env name).foldl (RecordEdit.apply name)
        (store.record? env name) := by
  cases write with
  | apply kind env' event =>
      simp only [onStore, editsOf, Write.kind, Store.record?_apply, true_and]
      by_cases henv : env = env'
      · simp [henv]
      · simp [henv, Ne.symm henv]
  | appendLogs env' pod events =>
      cases events with
      | nil => simp [onStore, editsOf, Store.appendLogs]
      | cons event rest =>
          simp only [onStore, editsOf, Write.kind, Store.appendLogs, List.isEmpty_cons,
            Bool.false_eq_true, if_false, Store.record?_editRecord]
          by_cases hkey : env = env' ∧ name = pod
          · obtain ⟨rfl, rfl⟩ := hkey
            -- A fresh record has no log, so a batch starts from nothing where none is there.
            cases store.record? env name <;> simp [RecordEdit.apply, Record.named]
          · have hother : ¬(env' = env ∧ pod = name) := fun h => hkey ⟨h.1.symm, h.2.symm⟩
            simp [hkey, hother]
  | setField kind env' name' field value =>
      simp only [onStore, editsOf, Write.kind, Store.setField, Store.record?_editRecord,
        true_and]
      by_cases hkey : env = env' ∧ name = name'
      · obtain ⟨rfl, rfl⟩ := hkey
        cases field <;> simp [RecordEdit.apply, Record.setField]
      · have hother : ¬(env' = env ∧ name' = name) := fun h => hkey ⟨h.1.symm, h.2.symm⟩
        simp [hkey, hother]

end Write

/-! ## Runs of writes -/

namespace World

variable (world : World)

theorem record?_commit_eq_foldl (write : Write) (kind : Kind) (env name : String) :
    (world.commit write).record? kind env name =
      (write.editsOf kind env name).foldl (RecordEdit.apply name)
        (world.record? kind env name) := by
  rw [record?_commit]
  split
  next hkind =>
    subst hkind
    rw [Write.record?_onStore, record?_storeOrNew]
  next hkind =>
    rw [write.editsOf_of_kind_ne hkind]
    rfl

/-- Writes leave of each record what the edits that address it make of it, from
whatever world they start. -/
theorem record?_commitAll (writes : List Write) (kind : Kind) (env name : String) :
    (world.commitAll writes).record? kind env name =
      (writes.flatMap (Write.editsOf kind env name)).foldl (RecordEdit.apply name)
        (world.record? kind env name) := by
  induction writes generalizing world with
  | nil => rfl
  | cons write rest ih =>
      rw [commitAll_cons, ih, record?_commit_eq_foldl, List.flatMap_cons, List.foldl_append]

end World

end ResourceWatch
