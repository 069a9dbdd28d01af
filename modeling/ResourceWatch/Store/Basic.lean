import ResourceWatch.Label.Selector
import ResourceWatch.OrderedMap
import ResourceWatch.Store.Record

/-! # Stores

A store holds the records of one kind, in a partition for each environment. It is a
value: every write gives a new store. A partition comes into being with the first
write to its environment and stays when its last record goes.
-/

namespace ResourceWatch

/-- The records of one environment by name. -/
abbrev Partition := OrderedMap String Record

namespace Partition

/-- The objects of the records that have one and pass a test. -/
def objectsWhere (partition : Partition) (keep : Resource → Bool) :
    OrderedMap String Resource :=
  partition.filterMap fun _ record => record.object.filter keep

end Partition

/-- The records of one kind by environment. -/
structure Store where
  kind : Kind
  environments : OrderedMap String Partition

namespace Store

def new (kind : Kind) : Store := ⟨kind, .empty⟩

/-- Equality of stores, by the equality of the data values in them. -/
def same (a b : Store) : Bool :=
  a.kind == b.kind &&
    (a.environments.toList.map fun (env, partition) => (env, partition.toList)) ==
      (b.environments.toList.map fun (env, partition) => (env, partition.toList))

variable (store : Store)

def partition? (env : String) : Option Partition := store.environments.get? env

def record? (env name : String) : Option Record :=
  (store.partition? env).bind fun partition => partition.get? name

/-- The objects of an environment that pass a test. -/
def objectsWhere (env : String) (keep : Resource → Bool) : OrderedMap String Resource :=
  match store.partition? env with
  | some partition => partition.objectsWhere keep
  | none => .empty

/-- The objects of an environment by name. Records without an object are left
out. -/
def objects (env : String) : OrderedMap String Resource :=
  store.objectsWhere env fun _ => true

/-- The objects of an environment whose labels satisfy a selector. -/
def select (env : String) (selector : Selector) : OrderedMap String Resource :=
  store.objectsWhere env fun object => selector.accepts object.labels

/-- Changes the partition of an environment, which is created if it is missing. -/
def editPartition (env : String) (edit : Partition → Partition) : Store :=
  { store with environments := store.environments.update env .empty edit }

/-- Changes the record of a name, which is created if it is missing. -/
def editRecord (env name : String) (edit : Record → Record) : Store :=
  store.editPartition env fun partition => partition.update name (.named name) edit

/-- Sets a fetched field of a record. -/
def setField (env name : String) (field : Field) (value : Json) : Store :=
  store.editRecord env name fun record => record.setField field value

/-- Removes the record of a name. An unknown environment is not created. -/
def remove (env name : String) : Store :=
  match store.record? env name with
  | some _ => store.editPartition env fun partition => partition.erase name
  | none => store

/-! ## What is selected under each name -/

theorem get?_objectsWhere (env name : String) (keep : Resource → Bool) :
    (store.objectsWhere env keep).get? name =
      ((store.record? env name).bind Record.object).filter keep := by
  unfold objectsWhere record?
  cases store.partition? env with
  | none => rfl
  | some partition =>
    rw [Option.bind_some]
    dsimp only
    rw [Partition.objectsWhere, OrderedMap.get?_filterMap]
    cases partition.get? name <;> rfl

/-! ## What a write leaves under each name -/

theorem record?_editPartition (env other name : String) (edit : Partition → Partition) :
    (store.editPartition env edit).record? other name =
      if other = env then (edit ((store.partition? env).getD .empty)).get? name
      else store.record? other name := by
  simp only [record?, partition?, editPartition, OrderedMap.get?_update]
  split <;> rfl

/-- Two changes of one partition are one change. -/
theorem editPartition_editPartition (env : String) (edit later : Partition → Partition) :
    (store.editPartition env edit).editPartition env later =
      store.editPartition env fun partition => later (edit partition) := by
  simp only [editPartition, OrderedMap.update_update]

/-- Two changes of one record are one change. -/
theorem editRecord_editRecord (env name : String) (edit later : Record → Record) :
    (store.editRecord env name edit).editRecord env name later =
      store.editRecord env name fun record => later (edit record) := by
  simp only [editRecord, editPartition_editPartition, OrderedMap.update_update]

theorem get?_partition?_getD (env name : String) :
    ((store.partition? env).getD .empty).get? name = store.record? env name := by
  unfold record?
  cases store.partition? env <;> rfl

theorem record?_editRecord (env name other otherName : String) (edit : Record → Record) :
    (store.editRecord env name edit).record? other otherName =
      if other = env ∧ otherName = name then
        some (edit ((store.record? env name).getD (.named name)))
      else store.record? other otherName := by
  rw [editRecord, record?_editPartition]
  by_cases henv : other = env
  · subst henv
    simp only [OrderedMap.get?_update, get?_partition?_getD, true_and, if_true]
  · simp only [henv, false_and, if_false]

theorem record?_remove (env name other otherName : String) :
    (store.remove env name).record? other otherName =
      if other = env ∧ otherName = name then none else store.record? other otherName := by
  unfold remove
  cases hrecord : store.record? env name with
  | none =>
    by_cases hkey : other = env ∧ otherName = name
    · rw [if_pos hkey, hkey.1, hkey.2, hrecord]
    · rw [if_neg hkey]
  | some record =>
    simp only [record?_editPartition]
    by_cases henv : other = env
    · subst henv
      simp only [OrderedMap.get?_erase, get?_partition?_getD, true_and, if_true,
        Std.LawfulEqCmp.compare_eq_iff_eq]
    · simp only [henv, false_and, if_false]

end Store

end ResourceWatch
