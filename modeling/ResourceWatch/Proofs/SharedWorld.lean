import Mathlib.Logic.Function.Basic
import ResourceWatch.World

/-! # Writers and readers of one world

A commit takes several steps: the writer takes the lock, loads the world, publishes the world
after its write, tells the new epoch to whoever listens and gives the lock back. Readers load
the world and look at the epoch that was told last, at any time and without the lock. Whatever
the order of all these steps, no write is lost, and nobody hears of an epoch before the world
of that epoch is there.
-/

namespace ResourceWatch

/-- How far a writer is in a commit: it has none, it has the lock, it has loaded the world, it
has published the world of an epoch, or it has told that epoch. -/
inductive CommitStage where
  | resting
  | locked (write : Write)
  | loaded (write : Write) (base : World)
  | published (epoch : Nat)
  | told

/-- What a reader sees: the epoch that was told last, or the world. -/
inductive Reading where
  | epoch (value : Nat)
  | world (value : World)

/-- A world shared by writers and readers. The writes in the order in which they took the
lock, those that were published, and all that was read are kept with it. -/
structure SharedWorld (Writer Reader : Type) where
  lock : Option Writer
  current : World
  toldEpoch : Nat
  stage : Writer → CommitStage
  taken : List Write
  published : List Write
  readings : List (Reader × Reading)

namespace SharedWorld

/-- What can happen next: a writer begins a commit or goes on with it, or a reader reads. -/
inductive Action (Writer Reader : Type) where
  | start (writer : Writer) (write : Write)
  | proceed (writer : Writer)
  | readEpoch (reader : Reader)
  | readWorld (reader : Reader)

variable {Writer Reader : Type}

def new : SharedWorld Writer Reader := ⟨none, .new, 0, fun _ => .resting, [], [], []⟩

section Steps

variable [DecidableEq Writer] (state : SharedWorld Writer Reader)

def move (writer : Writer) (stage : CommitStage) : SharedWorld Writer Reader :=
  { state with stage := Function.update state.stage writer stage }

/-- The next step of a commit. A writer without one does nothing. -/
def proceed (writer : Writer) : SharedWorld Writer Reader :=
  match state.stage writer with
  | .resting => state
  | .locked write => state.move writer (.loaded write state.current)
  | .loaded write base =>
    -- What is published comes from the world that was loaded, whatever the current one is.
    let next := base.commit write
    { state.move writer (.published next.epoch) with
      current := next, published := state.published ++ [write] }
  | .published epoch => { state.move writer .told with toldEpoch := epoch }
  | .told => { state.move writer .resting with lock := none }

/-- One step of somebody. A writer can begin only while the lock is free, and otherwise
waits. -/
def act : Action Writer Reader → SharedWorld Writer Reader
  | .start writer write =>
    match state.lock, state.stage writer with
    | none, .resting =>
      { state.move writer (.locked write) with
        lock := some writer, taken := state.taken ++ [write] }
    | _, _ => state
  | .proceed writer => state.proceed writer
  | .readEpoch reader =>
    { state with readings := state.readings ++ [(reader, .epoch state.toldEpoch)] }
  | .readWorld reader =>
    { state with readings := state.readings ++ [(reader, .world state.current)] }

/-- The shared world after steps in some order, from the empty world on. -/
def run (actions : List (Action Writer Reader)) : SharedWorld Writer Reader :=
  actions.foldl act new

end Steps

/-! ## What every step keeps -/

variable (state : SharedWorld Writer Reader)

/-- The stage of the writer that has the lock. Without one nobody is in a commit. -/
def holderStage : CommitStage :=
  match state.lock with
  | some writer => state.stage writer
  | none => .resting

/-- What is true while the writer with the lock is at a stage: whether its write is published
and whether the epoch of the current world was told. -/
def AtStage : CommitStage → Prop
  | .resting | .told =>
    state.taken = state.published ∧ state.toldEpoch = state.published.length
  | .locked write =>
    state.taken = state.published ++ [write] ∧ state.toldEpoch = state.published.length
  | .loaded write base =>
    state.taken = state.published ++ [write] ∧ state.toldEpoch = state.published.length ∧
      base = state.current
  | .published epoch =>
    state.taken = state.published ∧ state.toldEpoch + 1 = state.published.length ∧
      epoch = state.published.length

/-- Whether a reading is of something that was published. -/
def Truthful (published : List Write) : Reading → Prop
  | .epoch value => value ≤ published.length
  | .world value =>
    value.epoch ≤ published.length ∧ value = World.new.commitAll (published.take value.epoch)

/-- Whether two readings one after the other agree: a world that is read after an epoch is not
older than it. -/
def Agree : Reading → Reading → Prop
  | .epoch value, .world world => value ≤ world.epoch
  | _, _ => True

/-- What holds of a shared world after any steps. -/
structure Consistent : Prop where
  current_eq : state.current = World.new.commitAll state.published
  others_rest : ∀ writer, state.lock ≠ some writer → state.stage writer = .resting
  holder : state.AtStage state.holderStage
  truthful : ∀ reading ∈ state.readings, Truthful state.published reading.2
  agree : state.readings.Pairwise fun earlier later => Agree earlier.2 later.2

variable {state}

theorem Truthful.mono {published later : List Write} (hlater : published <+: later)
    {reading : Reading} (hreading : Truthful published reading) : Truthful later reading := by
  obtain ⟨added, rfl⟩ := hlater
  cases reading with
  | epoch value => exact Nat.le_trans hreading (by simp)
  | world value =>
      obtain ⟨hle, hvalue⟩ := hreading
      refine ⟨Nat.le_trans hle (by simp), ?_⟩
      rwa [List.take_append_of_le_length hle]

theorem consistent_new : (new : SharedWorld Writer Reader).Consistent :=
  ⟨rfl, fun _ _ => rfl, ⟨rfl, rfl⟩, by simp [new], by simp [new]⟩

namespace Consistent

theorem epoch_current (hstate : state.Consistent) :
    state.current.epoch = state.published.length := by
  rw [hstate.current_eq, World.epoch_commitAll]
  exact Nat.zero_add _

theorem lock_of_stage (hstate : state.Consistent) {writer : Writer}
    (hstage : state.stage writer ≠ .resting) : state.lock = some writer := by
  by_contra hlock
  exact hstage (hstate.others_rest writer hlock)

theorem atStage (hstate : state.Consistent) {writer : Writer}
    (hstage : state.stage writer ≠ .resting) : state.AtStage (state.stage writer) := by
  have hholder := hstate.holder
  rwa [holderStage, hstate.lock_of_stage hstage] at hholder

/-- While all writers rest, everything that was begun is published and told. -/
theorem atRest (hstate : state.Consistent) (hrest : ∀ writer, state.stage writer = .resting) :
    state.taken = state.published ∧ state.toldEpoch = state.published.length := by
  have hholder := hstate.holder
  unfold holderStage at hholder
  split at hholder
  next writer _ => rwa [hrest writer] at hholder
  next => exact hholder

theorem toldEpoch_bounds (hstate : state.Consistent) :
    state.toldEpoch ≤ state.published.length ∧ state.published.length ≤ state.toldEpoch + 1 := by
  have hholder := hstate.holder
  revert hholder
  cases state.holderStage <;> simp only [AtStage] <;> omega

theorem published_isPrefix (hstate : state.Consistent) : state.published <+: state.taken := by
  have hholder := hstate.holder
  revert hholder
  cases state.holderStage <;> simp only [AtStage] <;> rintro ⟨htaken, -⟩ <;> simp [htaken]

theorem read (hstate : state.Consistent) (reader : Reader) {reading : Reading}
    (htruthful : Truthful state.published reading)
    (hagree : ∀ earlier ∈ state.readings, Agree earlier.2 reading) :
    { state with readings := state.readings ++ [(reader, reading)] }.Consistent where
  current_eq := hstate.current_eq
  others_rest := hstate.others_rest
  holder := hstate.holder
  truthful := by
    rw [List.forall_mem_append, List.forall_mem_singleton]
    exact ⟨hstate.truthful, htruthful⟩
  agree := by
    rw [List.pairwise_append]
    exact ⟨hstate.agree, List.pairwise_singleton _ _, by simpa using hagree⟩

variable [DecidableEq Writer]

/-- A writer that has the lock after a step, and was the only one that could have it before,
keeps the world consistent if it leaves the readings alone and is where its stage says. -/
theorem of_moved (hstate : state.Consistent) {next : SharedWorld Writer Reader} {writer : Writer}
    {stage : CommitStage} (hothers : ∀ other, other ≠ writer → state.stage other = .resting)
    (hlock : next.lock = some writer)
    (hstage : next.stage = Function.update state.stage writer stage)
    (hcurrent : next.current = World.new.commitAll next.published) (hat : next.AtStage stage)
    (hpublished : state.published <+: next.published) (hreadings : next.readings = state.readings) :
    next.Consistent where
  current_eq := hcurrent
  others_rest other hother := by
    have hne : other ≠ writer := fun heq => hother (heq ▸ hlock)
    rw [hstage, Function.update_of_ne hne, hothers other hne]
  holder := by
    have hholder : next.holderStage = stage := by
      simp only [holderStage, hlock, hstage, Function.update_self]
    rwa [hholder]
  truthful reading hreading :=
    (hstate.truthful reading (hreadings ▸ hreading)).mono hpublished
  agree := hreadings ▸ hstate.agree

theorem start (hstate : state.Consistent) (writer : Writer) (write : Write) :
    (state.act (.start writer write)).Consistent := by
  simp only [act]
  split
  next hlock _ =>
    have hother (other : Writer) : state.stage other = .resting :=
      hstate.others_rest other (by simp [hlock])
    obtain ⟨htaken, htold⟩ := hstate.atRest hother
    refine hstate.of_moved (fun other _ => hother other) rfl rfl hstate.current_eq ?_
      (List.prefix_refl _) rfl
    exact ⟨congrArg (· ++ [write]) htaken, htold⟩
  next => exact hstate

theorem proceed (hstate : state.Consistent) (writer : Writer) :
    (state.proceed writer).Consistent := by
  by_cases hrest : state.stage writer = .resting
  · rwa [SharedWorld.proceed, hrest]
  have hlock := hstate.lock_of_stage hrest
  have hat := hstate.atStage hrest
  have hothers (other : Writer) (hne : other ≠ writer) : state.stage other = .resting :=
    hstate.others_rest other (by simpa [hlock] using hne.symm)
  unfold SharedWorld.proceed
  cases hstage : state.stage writer with
  | resting => exact absurd hstage hrest
  | locked write =>
      rw [hstage] at hat
      obtain ⟨htaken, htold⟩ := hat
      exact hstate.of_moved hothers hlock rfl hstate.current_eq ⟨htaken, htold, rfl⟩
        (List.prefix_refl _) rfl
  | loaded write base =>
      rw [hstage] at hat
      obtain ⟨htaken, htold, rfl⟩ := hat
      refine hstate.of_moved hothers hlock rfl ?_ ⟨htaken, ?_, ?_⟩
        (List.prefix_append _ _) rfl
      · -- The world that was loaded is still the current one: nobody else has the lock.
        simp [World.commitAll, hstate.current_eq]
      · simp [move, htold]
      · simpa [World.commit] using hstate.epoch_current
  | published epoch =>
      rw [hstage] at hat
      obtain ⟨htaken, -, hepoch⟩ := hat
      exact hstate.of_moved hothers hlock rfl hstate.current_eq ⟨htaken, hepoch⟩
        (List.prefix_refl _) rfl
  | told =>
      rw [hstage] at hat
      refine ⟨hstate.current_eq, fun other _ => ?_, hat, hstate.truthful, hstate.agree⟩
      by_cases heq : other = writer
      · simp [move, heq]
      · simpa [move, heq] using hothers other heq

theorem act (hstate : state.Consistent) (action : Action Writer Reader) :
    (state.act action).Consistent := by
  cases action with
  | start writer write => exact hstate.start writer write
  | proceed writer => exact hstate.proceed writer
  | readEpoch reader =>
      refine hstate.read reader hstate.toldEpoch_bounds.1 fun earlier _ => ?_
      cases earlier.2 <;> trivial
  | readWorld reader =>
      -- No epoch that was read before is above that of the current world.
      refine hstate.read reader ⟨Nat.le_of_eq hstate.epoch_current, ?_⟩ fun earlier hearlier => ?_
      · rw [hstate.epoch_current, List.take_length, hstate.current_eq]
      · have htruthful := hstate.truthful earlier hearlier
        obtain ⟨other, reading⟩ := earlier
        cases reading with
        | epoch value => exact Nat.le_trans htruthful (Nat.le_of_eq hstate.epoch_current.symm)
        | world value => trivial

theorem foldl (hstate : state.Consistent) (actions : List (Action Writer Reader)) :
    (actions.foldl SharedWorld.act state).Consistent := by
  induction actions generalizing state with
  | nil => exact hstate
  | cons action rest ih => exact ih (hstate.act action)

end Consistent

variable [DecidableEq Writer]

theorem consistent_run (actions : List (Action Writer Reader)) : (run actions).Consistent :=
  consistent_new.foldl actions

/-! ## What is published stays -/

theorem published_act (state : SharedWorld Writer Reader) (action : Action Writer Reader) :
    state.published <+: (state.act action).published := by
  cases action with
  | start writer write =>
      simp only [act]
      split <;> exact List.prefix_refl _
  | proceed writer =>
      simp only [act, proceed]
      cases state.stage writer with
      | loaded write base => exact List.prefix_append _ _
      | resting | locked _ | published _ | told => exact List.prefix_refl _
  | readEpoch reader | readWorld reader => exact List.prefix_refl _

theorem published_foldl (state : SharedWorld Writer Reader)
    (actions : List (Action Writer Reader)) :
    state.published <+: (actions.foldl act state).published := by
  induction actions generalizing state with
  | nil => exact List.prefix_refl _
  | cons action rest ih => exact (state.published_act action).trans (ih (state.act action))

/-- Once the epoch of the current world is told, nothing was published since the steps after
which that epoch was already told. -/
theorem current_eq_of_toldEpoch {earlier actions : List (Action Writer Reader)}
    (hearlier : earlier <+: actions)
    (htold : (run earlier).toldEpoch = (run actions).current.epoch) :
    (run earlier).current = (run actions).current := by
  have hbefore := consistent_run earlier
  have hafter := consistent_run actions
  have hpublished : (run earlier).published <+: (run actions).published := by
    obtain ⟨rest, rfl⟩ := hearlier
    rw [run, run, List.foldl_append]
    exact published_foldl _ rest
  have hlength : (run actions).published.length ≤ (run earlier).published.length :=
    calc (run actions).published.length
      _ = (run earlier).toldEpoch := by rw [htold, hafter.epoch_current]
      _ ≤ (run earlier).published.length := hbefore.toldEpoch_bounds.1
  rw [hbefore.current_eq, hafter.current_eq, hpublished.eq_of_length_le hlength]

/-! ## Commits without interruption -/

/-- All steps of a commit. -/
def commitSteps (writer : Writer) (write : Write) : List (Action Writer Reader) :=
  .start writer write :: List.replicate 4 (.proceed writer)

/-- While nobody else does anything, the steps of a commit are one commit to the world, and its
epoch is told. -/
theorem foldl_commitSteps {writer : Writer} (hlock : state.lock = none)
    (hstage : state.stage writer = .resting) (write : Write) :
    (commitSteps writer write).foldl act state =
      { state with
        current := state.current.commit write
        toldEpoch := (state.current.commit write).epoch
        taken := state.taken ++ [write]
        published := state.published ++ [write] } := by
  have hrest : Function.update state.stage writer .resting = state.stage := by
    rw [← hstage, Function.update_eq_self]
  simp [commitSteps, List.replicate, act, proceed, move, hlock, hstage, hrest]

/-- Writers that wait for each other commit to the world one after the other. -/
theorem current_foldl_commitSteps (hlock : state.lock = none)
    (hrest : ∀ writer, state.stage writer = .resting) (writes : List (Writer × Write)) :
    ((writes.flatMap fun (writer, write) => commitSteps writer write).foldl act state).current =
      state.current.commitAll (writes.map Prod.snd) := by
  induction writes generalizing state with
  | nil => rfl
  | cons entry rest ih =>
      obtain ⟨writer, write⟩ := entry
      rw [List.flatMap_cons, List.foldl_append, foldl_commitSteps hlock (hrest writer)]
      exact ih hlock hrest

/-! ## Commits in any order of their steps -/

/-- Whatever the order of all steps of writers and readers, the current world is that after the
published writes in the order in which their writers took the lock, and its epoch is their
number. The epoch that was told is that of the current world or the one before it. So a world
that is read after an epoch contains the writes up to that epoch, and while nobody is in a
commit the world that can be read since the last epoch was told is the final one. -/
theorem commits_serialized (actions : List (Action Writer Reader)) :
    let state := run actions
    state.published <+: state.taken ∧
      state.current = World.new.commitAll state.published ∧
      state.current.epoch = state.published.length ∧
      state.toldEpoch ≤ state.current.epoch ∧ state.current.epoch ≤ state.toldEpoch + 1 ∧
      (∀ reader other epoch world,
        [(reader, Reading.epoch epoch), (other, .world world)].Sublist state.readings →
          epoch ≤ world.epoch ∧
            world = World.new.commitAll (state.published.take world.epoch)) ∧
      ((∀ writer, state.stage writer = .resting) →
        state.toldEpoch = state.current.epoch ∧ state.published = state.taken ∧
          ∀ earlier, earlier <+: actions → (run earlier).toldEpoch = state.toldEpoch →
            (run earlier).current = state.current) := by
  intro state
  have hstate : state.Consistent := consistent_run actions
  have hepoch := hstate.epoch_current
  obtain ⟨hle, hge⟩ := hstate.toldEpoch_bounds
  refine ⟨hstate.published_isPrefix, hstate.current_eq, hepoch, by omega, by omega, ?_, ?_⟩
  · intro reader other epoch world hreadings
    have hagree := List.pairwise_iff_forall_sublist.mp hstate.agree hreadings
    have hmem : (other, .world world) ∈ state.readings := hreadings.subset (by simp)
    exact ⟨hagree, (hstate.truthful _ hmem).2⟩
  · intro hrest
    obtain ⟨htaken, htold⟩ := hstate.atRest hrest
    have heq : state.toldEpoch = state.current.epoch := htold.trans hepoch.symm
    exact ⟨heq, htaken.symm, fun earlier hearlier hsame =>
      current_eq_of_toldEpoch hearlier (hsame.trans heq)⟩

/-- Two writers, of which the second has to wait for the lock, and a reader that reads the epoch
after the first write and the world while the second write is not told yet. -/
def overlapping : List (Action Bool Unit) :=
  let first : Write := .apply .pod "prod" (.init [])
  let second : Write := .appendLogs "prod" "api" []
  [.start true first, .proceed true, .start false second, .proceed true, .proceed true,
    .readEpoch (), .proceed true, .start false second, .proceed false, .proceed false,
    .readWorld (), .proceed false, .proceed false]

theorem commits_serialized_overlapping :
    let state := run overlapping
    let earlier := overlapping.dropLast
    [((), Reading.epoch 1), ((), .world state.current)].Sublist state.readings ∧
      (∀ writer, state.stage writer = .resting) ∧ earlier <+: overlapping ∧
      (run earlier).toldEpoch = state.toldEpoch ∧
      1 ≤ state.current.epoch ∧
      state.current = World.new.commitAll (state.published.take state.current.epoch) ∧
      state.toldEpoch = state.current.epoch ∧ (run earlier).current = state.current := by
  intro state earlier
  have hreadings : [((), Reading.epoch 1), ((), .world state.current)].Sublist state.readings :=
    List.Sublist.refl _
  have hrest (writer : Bool) : state.stage writer = .resting := by
    cases writer <;> rfl
  have hearlier : earlier <+: overlapping := List.dropLast_prefix _
  have htold : (run earlier).toldEpoch = state.toldEpoch := rfl
  obtain ⟨-, -, -, -, -, hread, hquiet⟩ := commits_serialized overlapping
  obtain ⟨hle, hworld⟩ := hread () () 1 _ hreadings
  obtain ⟨heq, -, hlast⟩ := hquiet hrest
  exact ⟨hreadings, hrest, hearlier, htold, hle, hworld, heq, hlast earlier hearlier htold⟩

end SharedWorld

end ResourceWatch
