import ResourceWatch.Proofs.RecordHistory

/-! # Well-formed worlds

What holds of every world that grew by writes: the epoch counts the writes, there is a
store for each kind that was written to, and each record stands under its own name, holds
something, and holds only what belongs there. For records this is a matter of edits. An
edit that a write asks for fits the kind and the name that it addresses, and an edit that
fits leaves a well-formed record or none.
-/

namespace ResourceWatch

/-- A record of a kind, as it stands under a name. A record without any part does not
exist, an object declares the name of its record, and only pods have logs. -/
structure Record.WellFormed (kind : Kind) (name : String) (record : Record) : Prop where
  name_eq : record.name = name
  some_part : record.object.isSome ∨ record.spec.isSome ∨ record.repository.isSome ∨
    record.service.isSome ∨ record.log.isSome
  object_kind : ∀ object, record.object = some object → object.kind = kind
  object_name : ∀ object, record.object = some object → object.name? = some name
  log_pod : record.log.isSome → kind = .pod

namespace World

/-- The epochs that writes return, one after the other. -/
def epochs (world : World) : List Write → List Nat
  | [] => []
  | write :: rest => (world.commit write).epoch :: (world.commit write).epochs rest

/-- A world that some writes have made. -/
structure WellFormed (world : World) (writes : List Write) : Prop where
  epoch_eq : world.epoch = writes.length
  store_iff : ∀ kind, (world.store? kind).isSome ↔ ∃ write ∈ writes, write.kind = kind
  store_kind : ∀ kind store, world.store? kind = some store → store.kind = kind
  record_wellFormed : ∀ kind store env partition name record,
    world.store? kind = some store → store.partition? env = some partition →
      (name, record) ∈ partition.toList → record.WellFormed kind name

end World

/-! ## Edits that fit -/

namespace RecordEdit

/-- Whether an edit is one for the record of a kind and name. -/
def Fits (kind : Kind) (name : String) : RecordEdit → Prop
  | setObject object => object.kind = kind ∧ object.name? = some name
  | setField _ _ => True
  | extendLog events => kind = .pod ∧ events ≠ []
  | remove => True

end RecordEdit

theorem WatchEvent.fits_of_mem_editsOf {event : WatchEvent} {kind : Kind} {name : String}
    {edit : RecordEdit} (hedit : edit ∈ event.editsOf kind name) : edit.Fits kind name := by
  cases event with
  | init payloads =>
      obtain ⟨payload, hpayload, rfl⟩ := List.mem_map.mp hedit
      have hname := (List.mem_filter.mp hpayload).2
      exact ⟨rfl, of_decide_eq_true hname⟩
  | added payload | modified payload =>
      simp only [editsOf, List.mem_ite_nil_right, List.mem_singleton] at hedit
      obtain ⟨hname, rfl⟩ := hedit
      exact ⟨rfl, hname⟩
  | deleted payload =>
      simp only [editsOf, List.mem_ite_nil_right, List.mem_singleton] at hedit
      obtain ⟨-, rfl⟩ := hedit
      trivial

theorem Write.fits_of_mem_editsOf {write : Write} {kind : Kind} {env name : String}
    {edit : RecordEdit} (hedit : edit ∈ write.editsOf kind env name) : edit.Fits kind name := by
  cases write with
  | apply kind' env' event =>
      rw [editsOf, List.mem_ite_nil_right] at hedit
      exact WatchEvent.fits_of_mem_editsOf hedit.2
  | appendLogs env' pod events =>
      simp only [editsOf, List.mem_ite_nil_right, List.mem_singleton] at hedit
      obtain ⟨⟨hpod, -, -, hevents⟩, rfl⟩ := hedit
      exact ⟨hpod.symm, hevents⟩
  | setField kind' env' name' field value =>
      simp only [editsOf, List.mem_ite_nil_right, List.mem_singleton] at hedit
      obtain ⟨-, rfl⟩ := hedit
      trivial

/-- A log is set after any batch that changes it, also where none was set before. -/
theorem Log.isSome_run (log : Option String) {events : List LogEvent} (hevents : events ≠ []) :
    (run log events).isSome := by
  obtain ⟨event, rest, rfl⟩ := List.exists_cons_of_ne_nil hevents
  have hset : ∀ text : String, (run (some text) rest).isSome := by
    induction rest with
    | nil => intro text; rfl
    | cons next rest ih => intro text; exact ih (by simp) (step (some text) next)
  exact hset (step log event)

namespace RecordEdit

variable {kind : Kind} {name : String}

/-- What a record has to satisfy apart from holding something. A fresh record satisfies
it, so an edit may start from one. -/
private theorem wellFormed_getD {record : Option Record}
    (hrecord : ∀ r ∈ record, r.WellFormed kind name) :
    (record.getD (.named name)).name = name ∧
      (∀ object, (record.getD (.named name)).object = some object →
        object.kind = kind ∧ object.name? = some name) ∧
      ((record.getD (.named name)).log.isSome → kind = .pod) := by
  cases record with
  | none => simp [Record.named]
  | some r =>
      have hr := hrecord r rfl
      refine ⟨hr.name_eq, ?_, hr.log_pod⟩
      intro object hobject
      exact ⟨hr.object_kind object hobject, hr.object_name object hobject⟩

/-- An edit that fits leaves a well-formed record, or none. -/
theorem wellFormed_apply {edit : RecordEdit} (hfits : edit.Fits kind name)
    {record : Option Record} (hrecord : ∀ r ∈ record, r.WellFormed kind name) :
    ∀ r ∈ edit.apply name record, r.WellFormed kind name := by
  obtain ⟨hname, hobject, hlog⟩ := wellFormed_getD hrecord
  intro r hr
  cases edit with
  | setObject object =>
      obtain rfl := Option.some.inj hr
      refine ⟨hname, .inl rfl, ?_, ?_, hlog⟩
      · intro found hfound
        obtain rfl := Option.some.inj hfound
        exact hfits.1
      · intro found hfound
        obtain rfl := Option.some.inj hfound
        exact hfits.2
  | setField field value =>
      cases field <;>
      · obtain rfl := Option.some.inj hr
        exact ⟨hname, by simp, fun object h => (hobject object h).1,
          fun object h => (hobject object h).2, hlog⟩
  | extendLog events =>
      obtain rfl := Option.some.inj hr
      obtain ⟨hpod, hevents⟩ := hfits
      exact ⟨hname, by simp [Log.isSome_run _ hevents], fun object h => (hobject object h).1,
        fun object h => (hobject object h).2, fun _ => hpod⟩
  | remove => cases hr

theorem wellFormed_foldl {edits : List RecordEdit} (hfits : ∀ edit ∈ edits, edit.Fits kind name)
    {record : Option Record} (hrecord : ∀ r ∈ record, r.WellFormed kind name) :
    ∀ r ∈ edits.foldl (apply name) record, r.WellFormed kind name := by
  induction edits generalizing record with
  | nil => exact hrecord
  | cons edit rest ih =>
      obtain ⟨hedit, hrest⟩ := List.forall_mem_cons.mp hfits
      exact ih hrest (wellFormed_apply hedit hrecord)

end RecordEdit

/-! ## Worlds -/

namespace World

section Kinds

variable {world : World}
  (hkinds : ∀ kind store, world.store? kind = some store → store.kind = kind)

include hkinds

theorem kind_storeOrNew (kind : Kind) : (world.storeOrNew kind).kind = kind := by
  rw [storeOrNew]
  cases hstore : world.store? kind with
  | none => rfl
  | some store => exact hkinds kind store hstore

theorem store_kind_commit (write : Write) :
    ∀ kind store, (world.commit write).store? kind = some store → store.kind = kind := by
  intro kind store hstore
  rw [store?_commit] at hstore
  split at hstore
  next =>
    obtain rfl := Option.some.inj hstore
    rw [Write.kind_onStore, kind_storeOrNew hkinds]
  next => exact hkinds kind store hstore

theorem store_kind_commitAll (writes : List Write) :
    ∀ kind store, (world.commitAll writes).store? kind = some store → store.kind = kind := by
  induction writes generalizing world with
  | nil => exact hkinds
  | cons write rest ih => exact ih (store_kind_commit hkinds write)

end Kinds

/-- Writes bring the stores of their kinds into being, and none goes. -/
theorem isSome_store?_commitAll (world : World) (writes : List Write) (kind : Kind) :
    ((world.commitAll writes).store? kind).isSome ↔
      (world.store? kind).isSome ∨ ∃ write ∈ writes, write.kind = kind := by
  induction writes generalizing world with
  | nil => simp [commitAll]
  | cons write rest ih =>
      rw [commitAll_cons, ih, store?_commit]
      by_cases hkind : kind = write.kind
      · simp [hkind]
      · simp [hkind, Ne.symm hkind]

theorem wellFormed_of_record? (writes : List Write) {kind : Kind} {env name : String}
    {record : Record} (hrecord : (new.commitAll writes).record? kind env name = some record) :
    record.WellFormed kind name := by
  rw [record?_commitAll] at hrecord
  refine RecordEdit.wellFormed_foldl ?_ (fun r hr => by cases hr) record hrecord
  intro edit hedit
  obtain ⟨write, -, hwrite⟩ := List.mem_flatMap.mp hedit
  exact Write.fits_of_mem_editsOf hwrite

theorem epochs_eq (world : World) (writes : List Write) :
    world.epochs writes = List.range' (world.epoch + 1) writes.length := by
  induction writes generalizing world with
  | nil => rfl
  | cons write rest ih =>
      have hcommit : (world.commit write).epoch = world.epoch + 1 := rfl
      rw [epochs, ih, hcommit, List.length_cons, List.range'_succ]

/-- Every world that grew by writes is well formed, and each write returned the epoch that
it led to. -/
theorem wellFormed_commitAll (writes : List Write) :
    (new.commitAll writes).WellFormed writes ∧
      new.epochs writes = List.range' 1 writes.length := by
  refine ⟨⟨?_, ?_, ?_, ?_⟩, epochs_eq new writes⟩
  · rw [epoch_commitAll]
    exact Nat.zero_add _
  · intro kind
    rw [isSome_store?_commitAll]
    exact or_iff_right (by simp [store?, new])
  · exact store_kind_commitAll (by simp [store?, new]) writes
  · intro kind store env partition name record hstore hpartition hmem
    have hrecord : (new.commitAll writes).record? kind env name = some record := by
      rw [record?, hstore, Option.bind_some, Store.record?, hpartition, Option.bind_some]
      exact (partition.mem_toList_iff name record).mp hmem
    exact wellFormed_of_record? writes hrecord

end World

end ResourceWatch
