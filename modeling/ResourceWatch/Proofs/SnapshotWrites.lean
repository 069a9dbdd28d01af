import Mathlib.Data.List.Forall2
import ResourceWatch.Proofs.GatedReplay

/-! # Snapshots as single changes

A snapshot is written in one edit of its partition, and a change of one object in one edit of
its record. Both ways lead to the same store. The one difference is that a snapshot brings its
partition into being also when none of its items has a name, so that the partition has to be
opened before the items are written one by one. Therefore two snapshots are one, and a
snapshot that comes again changes nothing.
-/

namespace ResourceWatch

/-- Whether an event says of one payload that its object is there. -/
def WatchEvent.Announces (payload : Json) (event : WatchEvent) : Prop :=
  event = .added payload ∨ event = .modified payload

namespace Store

/-- The store with a partition for an environment, which is empty if it was missing. -/
def openPartition (store : Store) (env : String) : Store :=
  match store.partition? env with
  | some _ => store
  | none => { store with environments := store.environments.insert env .empty }

theorem openPartition_eq (store : Store) (env : String) :
    store.openPartition env = store.editPartition env fun partition => partition := by
  unfold openPartition editPartition OrderedMap.update
  cases hpartition : store.partition? env with
  | none => rw [show store.environments.get? env = none from hpartition, Option.getD_none]
  | some partition =>
      have hget : store.environments.get? env = some partition := hpartition
      rw [hget, Option.getD_some, OrderedMap.insert_of_get?_eq_some hget]

/-! ## Partitions -/

theorem upsertAll_append (kind : Kind) (partition : Partition) (payloads later : List Json) :
    upsertAll kind partition (payloads ++ later) =
      upsertAll kind (upsertAll kind partition payloads) later := List.foldl_append

/-- What one edit of a partition leaves is not changed when the same payloads come again. -/
theorem upsertAll_again (kind : Kind) (partition : Partition) (payloads : List Json) :
    upsertAll kind (upsertAll kind partition payloads) payloads =
      upsertAll kind partition payloads := by
  ext1 name
  have hedits : (WatchEvent.init payloads).editsOf kind name =
      ((payloads.filter fun payload => objectName? payload = some name).map
        (Resource.mk kind)).map .setObject := by
    rw [List.map_map]
    rfl
  simp only [get?_upsertAll, hedits, RecordEdit.foldl_setObject]
  split <;> rfl

/-! ## Stores -/

theorem apply_of_announces {payload : Json} {event : WatchEvent}
    (hevent : event.Announces payload) (store : Store) (env : String) (kind : Kind) :
    store.apply env kind event = store.upsert env kind payload := by
  rcases hevent with rfl | rfl <;> rfl

/-- In a partition that an edit leaves, a single change is one more edit. -/
theorem upsert_editPartition (store : Store) (env : String) (kind : Kind)
    (edit : Partition → Partition) (payload : Json) :
    (store.editPartition env edit).upsert env kind payload =
      store.editPartition env fun partition => upsertAll kind (edit partition) [payload] := by
  simp only [upsert, upsertAll, List.foldl_cons, List.foldl_nil]
  cases objectName? payload with
  | none => rfl
  | some name => exact store.editPartition_editPartition env edit _

/-- Single changes after an edit of their partition are one edit with it. -/
theorem follow_editPartition {payloads : List Json} {events : List WatchEvent}
    (hevents : List.Forall₂ WatchEvent.Announces payloads events) (store : Store) (env : String)
    (kind : Kind) (edit : Partition → Partition) :
    (store.editPartition env edit).follow env kind events =
      store.editPartition env fun partition => upsertAll kind (edit partition) payloads := by
  induction hevents generalizing edit with
  | nil => rfl
  | @cons payload event payloads events hevent _ ih =>
      calc (store.editPartition env edit).follow env kind (event :: events)
          = ((store.editPartition env edit).upsert env kind payload).follow env kind events := by
            rw [← apply_of_announces hevent]
            rfl
        _ = store.editPartition env fun partition =>
              upsertAll kind (upsertAll kind (edit partition) [payload]) payloads := by
            rw [upsert_editPartition, ih]
        _ = store.editPartition env fun partition =>
              upsertAll kind (edit partition) (payload :: payloads) := rfl

theorem apply_init_init (store : Store) (env : String) (kind : Kind)
    (payloads later : List Json) :
    (store.apply env kind (.init payloads)).apply env kind (.init later) =
      store.apply env kind (.init (payloads ++ later)) := by
  simp only [apply, editPartition_editPartition, upsertAll_append]

/-- A snapshot does to a store what its items do, announced one after the other in either way,
once its partition is there. Two snapshots are one with the items of both, and a snapshot that
comes again changes nothing. -/
theorem snapshot_eq_announcements (store : Store) (env : String) (kind : Kind)
    (payloads : List Json) :
    (∀ events, List.Forall₂ WatchEvent.Announces payloads events →
      store.apply env kind (.init payloads) =
        (store.openPartition env).follow env kind events) ∧
    (∀ later, (store.apply env kind (.init payloads)).apply env kind (.init later) =
      store.apply env kind (.init (payloads ++ later))) ∧
    (store.apply env kind (.init payloads)).apply env kind (.init payloads) =
      store.apply env kind (.init payloads) := by
  refine ⟨?_, store.apply_init_init env kind payloads, ?_⟩
  · intro events hevents
    rw [openPartition_eq, follow_editPartition hevents]
    rfl
  · simp only [apply, editPartition_editPartition, upsertAll_again]

/-- A snapshot with one name twice and an item without a name. -/
def repeatingItems : List Json :=
  [nameAndPhase "a" "Pending", .null, nameAndPhase "b" "Running", nameAndPhase "a" "Running"]

/-- The same items, announced in both ways. -/
def repeatingAnnouncements : List WatchEvent :=
  [.added (nameAndPhase "a" "Pending"), .modified .null, .added (nameAndPhase "b" "Running"),
    .modified (nameAndPhase "a" "Running")]

/-- A store with a record that has a fetched field and no object. -/
def fetchedOnly : Store := (Store.new .pod).setField "prod" "a" .spec .null

theorem snapshot_eq_announcements_repeating :
    List.Forall₂ WatchEvent.Announces repeatingItems repeatingAnnouncements ∧
      fetchedOnly.apply "prod" .pod (.init repeatingItems) =
        (fetchedOnly.openPartition "prod").follow "prod" .pod repeatingAnnouncements := by
  have hevents : List.Forall₂ WatchEvent.Announces repeatingItems repeatingAnnouncements :=
    .cons (.inl rfl) (.cons (.inr rfl) (.cons (.inl rfl) (.cons (.inr rfl) .nil)))
  obtain ⟨hannounced, -⟩ := snapshot_eq_announcements fetchedOnly "prod" .pod repeatingItems
  exact ⟨hevents, hannounced _ hevents⟩

end Store

end ResourceWatch
