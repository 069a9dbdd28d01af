import ResourceWatch.Proofs.RecordHistory

/-! # Independent writes

Pumps and consumers write into one world, and nothing says whose write comes first. It
makes no difference as long as nobody writes what another one writes: any two writes of
different origin address different records, or set different parts of those that both
address, and neither removes one of them. Such writes commute, because a store is no more
than its records and its partitions, and a partition that a write brings into being is
there whoever comes first.
-/

namespace ResourceWatch

/-! ## Independence -/

/-- A part of a record that can be set. -/
inductive RecordPart where
  | object
  | field (field : Field)
  | log
  deriving DecidableEq, Repr

namespace RecordEdit

/-- The part that an edit sets. A removal sets none, since it takes the whole record. -/
def part? : RecordEdit → Option RecordPart
  | setObject _ => some .object
  | setField field _ => some (.field field)
  | extendLog _ => some .log
  | remove => none

/-- Edits of one record are independent if they set different parts of it. A removal is
independent of nothing. -/
def Independent (edit other : RecordEdit) : Prop :=
  match edit.part?, other.part? with
  | some part, some otherPart => part ≠ otherPart
  | _, _ => False

end RecordEdit

/-- Writes are independent if their edits are, on every record that both address. -/
def Write.Independent (write other : Write) : Prop :=
  ∀ kind env name, ∀ edit ∈ write.editsOf kind env name,
    ∀ otherEdit ∈ other.editsOf kind env name, edit.Independent otherEdit

/-- The lists that arise from some sequences when one after the other gives up its first
write, until all are empty. -/
inductive Interleaving : List (List Write) → List Write → Prop where
  | nil {sequences : List (List Write)} (hempty : ∀ sequence ∈ sequences, sequence = []) :
      Interleaving sequences []
  | cons {front back : List (List Write)} {write : Write} {rest merged : List Write}
      (hmerged : Interleaving (front ++ rest :: back) merged) :
      Interleaving (front ++ (write :: rest) :: back) (write :: merged)

section Commuting

variable {σ ε : Type} {step : σ → ε → σ}

/-- A step may be taken after some steps instead of before them. -/
theorem foldl_step_comm {first : ε} {steps : List ε}
    (hcomm : ∀ later ∈ steps, ∀ s, step (step s first) later = step (step s later) first)
    (s : σ) : steps.foldl step (step s first) = step (steps.foldl step s) first := by
  induction steps generalizing s with
  | nil => rfl
  | cons later rest ih =>
      obtain ⟨hlater, hrest⟩ := List.forall_mem_cons.mp hcomm
      rw [List.foldl_cons, hlater, ih hrest, List.foldl_cons]

theorem foldl_foldl_comm {steps others : List ε}
    (hcomm : ∀ first ∈ steps, ∀ later ∈ others, ∀ s,
      step (step s first) later = step (step s later) first)
    (s : σ) : others.foldl step (steps.foldl step s) = steps.foldl step (others.foldl step s) := by
  induction steps generalizing s with
  | nil => rfl
  | cons first rest ih =>
      obtain ⟨hfirst, hrest⟩ := List.forall_mem_cons.mp hcomm
      rw [List.foldl_cons, ih hrest, foldl_step_comm hfirst, List.foldl_cons]

end Commuting

namespace RecordEdit

/-- Independent edits commute. Both begin a fresh record where there is none. -/
theorem apply_comm {edit other : RecordEdit} (hindependent : edit.Independent other)
    (name : String) (record : Option Record) :
    other.apply name (edit.apply name record) = edit.apply name (other.apply name record) := by
  cases edit with
  | setObject object =>
      cases other with
      | setObject => exact absurd rfl hindependent
      | setField field => cases field <;> rfl
      | extendLog events => cases record <;> rfl
      | remove => exact hindependent.elim
  | setField field value =>
      cases other with
      | setObject => cases field <;> rfl
      | setField otherField =>
          cases field <;> cases otherField <;> first | rfl | exact absurd rfl hindependent
      | extendLog events => cases field <;> cases record <;> rfl
      | remove => exact hindependent.elim
  | extendLog events =>
      cases other with
      | setObject => cases record <;> rfl
      | setField field => cases field <;> cases record <;> rfl
      | extendLog => exact absurd rfl hindependent
      | remove => exact hindependent.elim
  | remove => exact hindependent.elim

end RecordEdit

/-! ## Stores as records and partitions -/

namespace Store

/-- Whether the partition of an environment is there, be it empty. -/
def hasPartition (store : Store) (env : String) : Bool := (store.partition? env).isSome

/-- Stores of one kind with the same partitions and the same records are equal. -/
theorem ext_records {store other : Store} (hkind : store.kind = other.kind)
    (hpartitions : ∀ env, store.hasPartition env = other.hasPartition env)
    (hrecords : ∀ env name, store.record? env name = other.record? env name) : store = other := by
  obtain ⟨kind, environments⟩ := store
  obtain ⟨otherKind, otherEnvironments⟩ := other
  have hkinds : kind = otherKind := hkind
  suffices henvironments : environments = otherEnvironments by rw [hkinds, henvironments]
  apply OrderedMap.ext_get?
  intro env
  have hpartition := hpartitions env
  have hrecord := hrecords env
  simp only [hasPartition, record?, partition?] at hpartition hrecord
  cases hleft : environments.get? env with
  | none =>
      cases hright : otherEnvironments.get? env with
      | none => rfl
      | some partition => simp [hleft, hright] at hpartition
  | some partition =>
      cases hright : otherEnvironments.get? env with
      | none => simp [hleft, hright] at hpartition
      | some otherPartition =>
          simp only [hleft, hright, Option.bind_some] at hrecord
          rw [OrderedMap.ext_get? hrecord]

theorem hasPartition_editPartition (store : Store) (env other : String)
    (edit : Partition → Partition) :
    (store.editPartition env edit).hasPartition other =
      (store.hasPartition other || other = env) := by
  simp only [hasPartition, partition?, editPartition, OrderedMap.get?_update]
  by_cases henv : other = env <;> simp [henv]

theorem hasPartition_of_record? {store : Store} {env name : String} {record : Record}
    (hrecord : store.record? env name = some record) : store.hasPartition env = true := by
  obtain ⟨partition, hpartition, -⟩ := Option.bind_eq_some_iff.mp hrecord
  rw [hasPartition, hpartition]
  rfl

theorem hasPartition_remove (store : Store) (env other name : String) :
    (store.remove env name).hasPartition other = store.hasPartition other := by
  rw [remove]
  split
  next record hrecord =>
    rw [hasPartition_editPartition]
    by_cases henv : other = env
    · rw [henv, hasPartition_of_record? hrecord, Bool.true_or]
    · simp [henv]
  next => rfl

theorem hasPartition_upsert (store : Store) (env other : String) (kind : Kind)
    (payload : Json) :
    (store.upsert env kind payload).hasPartition other =
      (store.hasPartition other || ((objectName? payload).isSome && other = env)) := by
  rw [upsert]
  cases objectName? payload with
  | none => simp
  | some name => exact store.hasPartition_editPartition env other _

end Store

/-- Whether an event brings the partition of its environment into being. Even an empty
snapshot does, and a deletion never does. -/
def WatchEvent.opens : WatchEvent → Bool
  | init _ => true
  | added payload | modified payload => (objectName? payload).isSome
  | deleted _ => false

namespace Write

/-- Whether a write brings the partition of an environment into being. -/
def opens (env : String) : Write → Bool
  | apply _ env' event => event.opens && env = env'
  | appendLogs env' _ events => !events.isEmpty && env = env'
  | setField _ env' _ _ _ => env = env'

theorem hasPartition_onStore (write : Write) (store : Store) (env : String) :
    (write.onStore store).hasPartition env = (store.hasPartition env || write.opens env) := by
  cases write with
  | apply kind env' event =>
      cases event with
      | init payloads => exact store.hasPartition_editPartition env' env _
      | added payload | modified payload => exact store.hasPartition_upsert env' env kind payload
      | deleted payload =>
          simp only [onStore, Store.apply, opens, WatchEvent.opens, Bool.false_and, Bool.or_false]
          split
          next name _ => exact store.hasPartition_remove env' env name
          next => rfl
  | appendLogs env' pod events =>
      cases events with
      | nil => simp [onStore, Store.appendLogs, opens]
      | cons event rest => exact store.hasPartition_editPartition env' env _
  | setField kind env' name field value => exact store.hasPartition_editPartition env' env _

/-! ## Writes that commute -/

/-- Independent writes to one store commute on it. -/
theorem onStore_comm {write other : Write} (hindependent : write.Independent other)
    (hkind : write.kind = other.kind) (store : Store) :
    other.onStore (write.onStore store) = write.onStore (other.onStore store) := by
  apply Store.ext_records
  · simp only [kind_onStore]
  · intro env
    simp only [hasPartition_onStore]
    exact Bool.or_right_comm _ _ _
  · intro env name
    simp only [record?_onStore, hkind]
    apply foldl_foldl_comm
    intro edit hedit otherEdit hother record
    exact RecordEdit.apply_comm (hindependent _ env name edit hedit otherEdit hother) name record

end Write

namespace World

theorem ext_stores {world other : World} (hepoch : world.epoch = other.epoch)
    (hstores : ∀ kind, world.store? kind = other.store? kind) : world = other := by
  obtain ⟨epoch, stores⟩ := world
  obtain ⟨otherEpoch, otherStores⟩ := other
  have hepochs : epoch = otherEpoch := hepoch
  have hmaps : stores = otherStores := OrderedMap.ext_get? hstores
  rw [hepochs, hmaps]

theorem storeOrNew_commit (world : World) (write : Write) (kind : Kind) :
    (world.commit write).storeOrNew kind =
      if kind = write.kind then write.onStore (world.storeOrNew kind)
      else world.storeOrNew kind := by
  rw [storeOrNew, store?_commit]
  split <;> rfl

/-- Independent writes commute on every world. -/
theorem commit_comm {write other : Write} (hindependent : write.Independent other)
    (world : World) : (world.commit write).commit other = (world.commit other).commit write := by
  refine ext_stores ?_ ?_
  · rfl
  intro kind
  simp only [store?_commit, storeOrNew_commit]
  by_cases hwrite : kind = write.kind
  · by_cases hother : kind = other.kind
    · have hkind : write.kind = other.kind := hwrite.symm.trans hother
      simp only [if_pos hwrite, if_pos hother, Write.onStore_comm hindependent hkind]
    · simp only [if_pos hwrite, if_neg hother]
  · simp only [if_neg hwrite]

end World

/-! ## Interleavings -/

/-- All writes of one sequence are independent of all writes of another. -/
def Apart (sequence other : List Write) : Prop :=
  ∀ write ∈ sequence, ∀ otherWrite ∈ other, write.Independent otherWrite

theorem Apart.of_cons {front back : List (List Write)} {write : Write} {rest : List Write}
    (hapart : (front ++ (write :: rest) :: back).Pairwise Apart) :
    (front ++ rest :: back).Pairwise Apart := by
  rw [List.pairwise_append, List.pairwise_cons] at hapart ⊢
  obtain ⟨hfront, ⟨hrest, hback⟩, hacross⟩ := hapart
  refine ⟨hfront, ⟨?_, hback⟩, ?_⟩
  · intro sequence hsequence other hother
    exact hrest sequence hsequence other (List.mem_cons_of_mem _ hother)
  · intro sequence hsequence later hlater
    rcases List.mem_cons.mp hlater with rfl | hlater
    · intro other hother otherWrite hmem
      exact hacross sequence hsequence _ List.mem_cons_self other hother otherWrite
        (List.mem_cons_of_mem _ hmem)
    · exact hacross sequence hsequence later (List.mem_cons_of_mem _ hlater)

namespace World

/-- An interleaving of sequences that are apart does what the sequences do one after the
other. -/
theorem commitAll_interleaving {sequences : List (List Write)} {merged : List Write}
    (hmerged : Interleaving sequences merged) (hapart : sequences.Pairwise Apart)
    (world : World) : world.commitAll merged = world.commitAll sequences.flatten := by
  induction hmerged generalizing world with
  | nil hempty => rw [List.flatten_eq_nil_iff.mpr hempty]
  | @cons front back write rest merged hmerged ih =>
      -- The first write of the interleaving moves behind all sequences in front of its own.
      have hcomm : ∀ other ∈ front.flatten, ∀ world : World,
          (world.commit write).commit other = (world.commit other).commit write := by
        intro other hother world
        obtain ⟨sequence, hsequence, hmem⟩ := List.mem_flatten.mp hother
        have hacross := (List.pairwise_append.mp hapart).2.2 sequence hsequence
          (write :: rest) List.mem_cons_self
        exact (commit_comm (hacross other hmem write List.mem_cons_self) world).symm
      have hmove : (world.commit write).commitAll front.flatten =
          (world.commitAll front.flatten).commit write := foldl_step_comm hcomm world
      calc world.commitAll (write :: merged)
          = (world.commit write).commitAll (front ++ rest :: back).flatten :=
            ih (Apart.of_cons hapart) (world.commit write)
        _ = (((world.commit write).commitAll front.flatten).commitAll rest).commitAll
              back.flatten := by
            simp only [commitAll, List.flatten_append, List.flatten_cons, List.foldl_append]
        _ = (((world.commitAll front.flatten).commit write).commitAll rest).commitAll
              back.flatten := by rw [hmove]
        _ = world.commitAll (front ++ (write :: rest) :: back).flatten := by
            simp only [commitAll, List.flatten_append, List.flatten_cons, List.foldl_append,
              List.foldl_cons]

/-- Any two interleavings of sequences that are apart lead from a world to one and the same
world, with the same epoch, the same stores and the same partitions in them. -/
theorem commitAll_eq_of_interleavings {sequences : List (List Write)}
    (hapart : sequences.Pairwise Apart) {merged other : List Write}
    (hmerged : Interleaving sequences merged) (hother : Interleaving sequences other)
    (world : World) : world.commitAll merged = world.commitAll other :=
  (commitAll_interleaving hmerged hapart world).trans
    (commitAll_interleaving hother hapart world).symm

/-- What a stream of pods, a log and a consumer write, all three about one pod. -/
def podWrites : List (List Write) :=
  [[.apply .pod "prod" (.init [nameOnly "a", nameOnly "b"]),
      .apply .pod "prod" (.deleted (nameOnly "b"))],
    [.appendLogs "prod" "a" [.append "ready"]],
    [.setField .pod "prod" "a" .spec .null]]

/-- The writes of `podWrites` with the log in front and the field between the events. -/
def podWritesMixed : List Write :=
  [.appendLogs "prod" "a" [.append "ready"],
    .apply .pod "prod" (.init [nameOnly "a", nameOnly "b"]),
    .setField .pod "prod" "a" .spec .null, .apply .pod "prod" (.deleted (nameOnly "b"))]

theorem commitAll_eq_of_interleavings_podWrites :
    podWrites.Pairwise Apart ∧ Interleaving podWrites podWrites.flatten ∧
      Interleaving podWrites podWritesMixed ∧
      new.commitAll podWrites.flatten = new.commitAll podWritesMixed := by
  have hapart : podWrites.Pairwise Apart := by
    simp only [podWrites, Apart, Write.Independent, Write.editsOf, WatchEvent.editsOf,
      objectName?_nameOnly, List.pairwise_cons, List.mem_cons, List.not_mem_nil, or_false,
      forall_eq_or_imp, forall_eq, List.mem_ite_nil_right, List.mem_map, List.mem_filter,
      List.Pairwise.nil]
    grind [RecordEdit.Independent, RecordEdit.part?]
  have hempty : Interleaving [[], [], []] [] := .nil (by simp)
  have hinOrder : Interleaving podWrites podWrites.flatten :=
    @Interleaving.cons [] _ _ _ _ <| @Interleaving.cons [] _ _ _ _ <|
      @Interleaving.cons [[]] _ _ _ _ <| @Interleaving.cons [[], []] _ _ _ _ hempty
  have hmixed : Interleaving podWrites podWritesMixed :=
    @Interleaving.cons [_] _ _ _ _ <| @Interleaving.cons [] _ _ _ _ <|
      @Interleaving.cons [_, _] _ _ _ _ <| @Interleaving.cons [] _ _ _ _ hempty
  exact ⟨hapart, hinOrder, hmixed, commitAll_eq_of_interleavings hapart hinOrder hmixed new⟩

end World

end ResourceWatch
