import ResourceWatch.Store.Write

/-! # The world

The world is the stores of all kinds with the number of writes that led to it, its
epoch. Every write produces a new epoch and brings its store into being, also when
it changes nothing in it.
-/

namespace ResourceWatch

/-- A write to the world. -/
inductive Write where
  | apply (kind : Kind) (env : String) (event : WatchEvent)
  | appendLogs (env pod : String) (events : List LogEvent)
  | setField (kind : Kind) (env name : String) (field : Field) (value : Json)

namespace Write

/-- The kind of the store that a write goes to. Logs belong to pods. -/
def kind : Write → Kind
  | apply kind _ _ => kind
  | appendLogs _ _ _ => .pod
  | setField kind _ _ _ _ => kind

/-- The effect of a write on the store of its kind. -/
def onStore (store : Store) : Write → Store
  | apply kind env event => store.apply env kind event
  | appendLogs env pod events => store.appendLogs env pod events
  | setField _ env name field value => store.setField env name field value

theorem kind_onStore (write : Write) (store : Store) : (write.onStore store).kind = store.kind := by
  cases write with
  | apply kind env event =>
    cases event with
    | init payloads => rfl
    | added payload | modified payload =>
      simp only [onStore, Store.apply, Store.upsert]
      split <;> rfl
    | deleted payload =>
      simp only [onStore, Store.apply, Store.remove]
      split
      · split <;> rfl
      · rfl
  | appendLogs env pod events =>
    rw [onStore, Store.appendLogs]
    split <;> rfl
  | setField kind env name field value => rfl

end Write

/-- All stores at one moment. The epoch is a number without a limit. A counter of 64 bits that
stays at its greatest value agrees with it below `2 ^ 64` commits. -/
structure World where
  epoch : Nat
  stores : OrderedMap Kind Store

namespace World

def new : World := ⟨0, .empty⟩

instance : Inhabited World := ⟨new⟩

variable (world : World)

/-- The store of a kind, once something was written to it. -/
def store? (kind : Kind) : Option Store := world.stores.get? kind

def record? (kind : Kind) (env name : String) : Option Record :=
  (world.store? kind).bind fun store => store.record? env name

/-- The objects of an environment by name. -/
def objects (kind : Kind) (env : String) : OrderedMap String Resource :=
  match world.store? kind with
  | some store => store.objects env
  | none => .empty

/-- The world after a write, with the next epoch. -/
def commit (write : Write) : World :=
  let store := (world.store? write.kind).getD (.new write.kind)
  ⟨world.epoch + 1, world.stores.insert write.kind (write.onStore store)⟩

/-- The world after a list of writes. -/
def commitAll (writes : List Write) : World :=
  writes.foldl commit world

/-- The store of a kind as the first write to it would find it. -/
def storeOrNew (kind : Kind) : Store := (world.store? kind).getD (.new kind)

theorem record?_storeOrNew (kind : Kind) (env name : String) :
    (world.storeOrNew kind).record? env name = world.record? kind env name := by
  unfold storeOrNew record?
  cases world.store? kind <;> rfl

theorem store?_commit (write : Write) (kind : Kind) :
    (world.commit write).store? kind =
      if kind = write.kind then some (write.onStore (world.storeOrNew kind))
      else world.store? kind := by
  simp only [commit, store?, OrderedMap.get?_insert, Std.LawfulEqCmp.compare_eq_iff_eq]
  split
  next hkind => rw [hkind]; rfl
  next => rfl

theorem record?_commit (write : Write) (kind : Kind) (env name : String) :
    (world.commit write).record? kind env name =
      if kind = write.kind then (write.onStore (world.storeOrNew kind)).record? env name
      else world.record? kind env name := by
  rw [record?, store?_commit]
  split <;> rfl

theorem commitAll_cons (write : Write) (writes : List Write) :
    world.commitAll (write :: writes) = (world.commit write).commitAll writes := rfl

theorem epoch_commitAll (writes : List Write) :
    (world.commitAll writes).epoch = world.epoch + writes.length := by
  induction writes generalizing world with
  | nil => rfl
  | cons write rest ih =>
      have hcommit : (world.commit write).epoch = world.epoch + 1 := rfl
      rw [commitAll_cons, ih, hcommit, List.length_cons]
      omega

/-- Whether the epoch is another one than one seen before. -/
def changedSince (seen : Nat) : Bool := world.epoch ≠ seen

end World

end ResourceWatch
