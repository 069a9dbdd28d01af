import ResourceWatch.Proofs.FreshLines
import ResourceWatch.Proofs.IndependentWrites

/-! # What a batch of changes leaves

A batch of changes sets the log of one record to the texts since the last start, and leaves
everything else in its store as it was. How changes are cut into batches makes no difference.
-/

namespace ResourceWatch

namespace Store

/-- Whether a store is another one with a text set as the log of a pod. The record of the pod
and its partition are there, whether or not they were before, and all else is the same. -/
structure AgreesExceptLog (next store : Store) (env pod text : String) : Prop where
  kind : next.kind = store.kind
  hasPartition : ∀ other, next.hasPartition other = (store.hasPartition other || other = env)
  record : next.record? env pod =
    some { (store.record? env pod).getD (.named pod) with log := some text }
  others : ∀ other name, ¬(other = env ∧ name = pod) →
    next.record? other name = store.record? other name

theorem appendLogs_nil (store : Store) (env pod : String) : store.appendLogs env pod [] = store :=
  rfl

theorem appendLogs_of_ne_nil (store : Store) (env pod : String) {events : List LogEvent}
    (hne : events ≠ []) :
    store.appendLogs env pod events =
      store.editRecord env pod fun record =>
        { record with log := Log.run record.log events } := by
  rw [appendLogs, if_neg (by simpa using hne)]

theorem log_record?_getD (store : Store) (env pod : String) :
    ((store.record? env pod).getD (.named pod)).log = store.log? env pod := by
  rw [log?]
  cases store.record? env pod <;> rfl

theorem agreesExceptLog_appendLogs (store : Store) (env pod : String) {events : List LogEvent}
    (hne : events ≠ []) :
    (store.appendLogs env pod events).AgreesExceptLog store env pod
      ("\n".intercalate (Log.pieces (store.log? env pod) events)) := by
  rw [appendLogs_of_ne_nil store env pod hne]
  constructor
  · rfl
  · intro other
    exact store.hasPartition_editPartition env other _
  · rw [record?_editRecord, if_pos ⟨rfl, rfl⟩, log_record?_getD, Log.run_eq_intercalate _ hne]
  · intro other name hother
    rw [record?_editRecord, if_neg hother]

theorem appendLogs_append (store : Store) (env pod : String) (former latter : List LogEvent) :
    store.appendLogs env pod (former ++ latter) =
      (store.appendLogs env pod former).appendLogs env pod latter := by
  by_cases hformer : former = []
  · rw [hformer, List.nil_append, appendLogs_nil]
  by_cases hlatter : latter = []
  · rw [hlatter, List.append_nil, appendLogs_nil]
  rw [appendLogs_of_ne_nil _ _ _ hformer, appendLogs_of_ne_nil _ _ _ hlatter,
    appendLogs_of_ne_nil _ _ _ (List.append_ne_nil_of_left_ne_nil hformer latter),
    editRecord_editRecord]
  simp only [Log.run_append]

/-- A batch without changes leaves a store as it is. Any other one sets the log of its pod, and
nothing else, to the texts appended after the last start, newest first, in front of the text of
this start or, without one, of the former log. A batch does what its parts do one after the
other. -/
theorem appendLogs_closed_form (store : Store) (env pod : String) :
    store.appendLogs env pod [] = store ∧
    (∀ events, events ≠ [] →
      (store.appendLogs env pod events).AgreesExceptLog store env pod
        ("\n".intercalate (Log.pieces (store.log? env pod) events))) ∧
    ∀ former latter,
      (store.appendLogs env pod former).appendLogs env pod latter =
        store.appendLogs env pod (former ++ latter) :=
  ⟨store.appendLogs_nil env pod, fun _ hne => store.agreesExceptLog_appendLogs env pod hne,
    fun former latter => (store.appendLogs_append env pod former latter).symm⟩

/-- An empty start and an empty text after it stand as two empty lines. -/
theorem appendLogs_closed_form_emptyTexts :
    [LogEvent.append "B", .start "", .append "", .append "C"] ≠ [] ∧
      (oneLineStore.appendLogs "prod" "web"
        [.append "B", .start "", .append "", .append "C"]).AgreesExceptLog oneLineStore "prod" "web"
          "C\n\n" := by
  have hne : [LogEvent.append "B", .start "", .append "", .append "C"] ≠ [] :=
    List.cons_ne_nil _ _
  exact ⟨hne, (appendLogs_closed_form oneLineStore "prod" "web").2.1 _ hne⟩

end Store

end ResourceWatch
