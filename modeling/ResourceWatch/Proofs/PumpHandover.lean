import Mathlib.Data.List.Basic
import Mathlib.Data.List.Induction
import Mathlib.Logic.Function.Basic
import ResourceWatch.Proofs.GatedReplay

/-! # Two pumps for one key

When a consumer has left and another one comes, the pump of the former stream may still have
events to drain while the pump of the latter stream is at work. Nothing orders the writes of
the two. Each pump writes its events in the order of their arrival, but of a name that both
streams carry the world keeps what the pump wrote that came last, and this may be the former
one: an event that is late overwrites a newer one of the latter stream.
-/

namespace ResourceWatch

/-! ## Pumps that take turns -/

/-- One of the two streams that serve a key one after the other. -/
inductive Tenure where
  | former
  | latter
  deriving DecidableEq, Repr

/-- The pump of a resource stream with the events that wait for it, and whether it has left
its loop. -/
structure PumpTask where
  pump : WatchPump
  queue : List WatchEvent
  exited : Bool

/-- What a pump can do next: it receives the event in front at a time, its deadline comes, or
it finds its stream at an end and exits. -/
inductive PumpMove where
  | receive (now : Nat)
  | flush
  | exit

namespace PumpTask

variable (task : PumpTask)

/-- The task after an input to its pump, with the writes of the pump. -/
def feed (input : PumpInput) (queue : List WatchEvent) (exited : Bool) : PumpTask × List Write :=
  let (pump, writes) := task.pump.step input
  (⟨pump, queue, exited⟩, writes)

/-- The task after a move, if it can make it. A deadline comes only where the gate has one,
and the end of the stream is found behind its last event. -/
def move? (move : PumpMove) : Option (PumpTask × List Write) :=
  if task.exited then none
  else
    match move, task.queue with
    | .receive now, event :: rest => some (task.feed (.event event now) rest false)
    | .receive _, [] => none
    | .flush, queue =>
      if task.pump.gate.deadline.isSome then some (task.feed .due queue false) else none
    | .exit, [] => some (task.feed .ended [] true)
    | .exit, _ :: _ => none

def Drained : Prop := task.queue = [] ∧ task.pump.gate.buffered = 0

end PumpTask

/-- Whose write came when. -/
abbrev CommitLog := List (Tenure × Write)

/-- The pumps of both streams of a key, with the world that they write into and the writes
that it got. -/
structure Handover where
  world : World
  task : Tenure → PumpTask
  commits : CommitLog

namespace Handover

/-- Both pumps as they begin, with all events that their streams will bring. -/
def start (world : World) (kind : Kind) (env : String) (window : Nat)
    (events : Tenure → List WatchEvent) : Handover :=
  ⟨world, fun tenure => ⟨.new kind env window, events tenure, false⟩, []⟩

variable (handover : Handover)

/-- The handover after a move of one pump, if it can make it. Its writes are committed at
once. -/
def step? (tenure : Tenure) (move : PumpMove) : Option Handover :=
  ((handover.task tenure).move? move).map fun (task, writes) =>
    { world := handover.world.commitAll writes
      task := Function.update handover.task tenure task
      commits := handover.commits ++ writes.map (tenure, ·) }

def run? (handover : Handover) : List (Tenure × PumpMove) → Option Handover
  | [] => some handover
  | (tenure, move) :: rest => (handover.step? tenure move).bind fun next => next.run? rest

def Drained : Prop := ∀ tenure, (handover.task tenure).Drained

end Handover

/-! ## The newest payload of a name -/

def Write.payloads : Write → List Json
  | apply _ _ event => event.payloads
  | appendLogs _ _ _ | setField _ _ _ _ _ => []

/-- The last of some payloads with a name. -/
def newest? (name : String) (payloads : List Json) : Option Json :=
  (payloads.filter fun payload => objectName? payload = some name).getLast?

theorem newest?_append (name : String) (payloads more : List Json) :
    newest? name (payloads ++ more) = (newest? name more).or (newest? name payloads) := by
  rw [newest?, List.filter_append, List.getLast?_append]
  rfl

theorem newest?_eq_none_iff {name : String} {payloads : List Json} :
    newest? name payloads = none ↔ ∀ payload ∈ payloads, objectName? payload ≠ some name := by
  simp [newest?]

def Write.Carries (name : String) (write : Write) : Prop :=
  (newest? name write.payloads).isSome = true

instance (name : String) (write : Write) : Decidable (write.Carries name) :=
  inferInstanceAs (Decidable (_ = true))

namespace CommitLog

variable (log : CommitLog)

def payloads : List Json := log.flatMap fun commit => commit.2.payloads

/-- The payloads that one of the pumps has written. -/
def payloadsOf (tenure : Tenure) : List Json :=
  payloads (log.filter fun commit => commit.1 = tenure)

/-- The pump that came last with a write of a name. -/
def lastCommitter? (name : String) : Option Tenure :=
  (log.reverse.find? fun commit => commit.2.Carries name).map Prod.fst

theorem payloads_append (more : CommitLog) :
    payloads (log ++ more) = log.payloads ++ more.payloads :=
  List.flatMap_append

theorem payloadsOf_append (more : CommitLog) (tenure : Tenure) :
    payloadsOf (log ++ more) tenure = log.payloadsOf tenure ++ more.payloadsOf tenure := by
  unfold payloadsOf
  rw [List.filter_append, payloads_append]

theorem payloadsOf_map (tenure other : Tenure) (writes : List Write) :
    payloadsOf (writes.map (tenure, ·)) other =
      if other = tenure then writes.flatMap Write.payloads else [] := by
  by_cases hother : other = tenure
  · subst hother
    have hown : (writes.map (other, ·)).filter (fun commit => commit.1 = other) =
        writes.map (other, ·) := List.filter_eq_self.mpr (by simp)
    rw [payloadsOf, hown, payloads, List.flatMap_map, if_pos rfl]
  · simp [payloadsOf, payloads, Ne.symm hother, hother]

theorem payloadsOf_subset (tenure : Tenure) : log.payloadsOf tenure ⊆ log.payloads := by
  intro payload hmem
  obtain ⟨commit, hcommit, hpayload⟩ := List.mem_flatMap.mp hmem
  exact List.mem_flatMap.mpr ⟨commit, List.mem_of_mem_filter hcommit, hpayload⟩

theorem lastCommitter?_append_singleton (commit : Tenure × Write) (name : String) :
    lastCommitter? (log ++ [commit]) name =
      if commit.2.Carries name then some commit.1 else log.lastCommitter? name := by
  rw [lastCommitter?, List.reverse_append, List.reverse_singleton, List.singleton_append,
    List.find?_cons]
  split
  next hcarries => simp_all
  next hcarries => simp_all [lastCommitter?]

/-- The newest payload of a name among all writes is the newest one among those of the pump
that came last with it. -/
theorem newest?_payloads (name : String) {tenure : Tenure}
    (hlast : log.lastCommitter? name = some tenure) :
    newest? name log.payloads = newest? name (log.payloadsOf tenure) := by
  -- Both sides and the last committer are decided by the last write of the name, so the
  -- induction takes the log apart from its end.
  induction log using List.reverseRecOn with
  | nil => cases hlast
  | append_singleton before commit ih =>
      have hpayloads : payloads [commit] = commit.2.payloads := List.append_nil _
      rw [lastCommitter?_append_singleton] at hlast
      rw [payloads_append, payloadsOf_append, newest?_append, newest?_append, hpayloads]
      split at hlast
      next hcarries =>
        obtain rfl : commit.1 = tenure := Option.some.inj hlast
        have hown : payloadsOf [commit] commit.1 = commit.2.payloads := by
          simp [payloadsOf, payloads]
        obtain ⟨payload, hpayload⟩ := Option.isSome_iff_exists.mp hcarries
        rw [hown, hpayload]
        rfl
      next hcarries =>
        have hnone : newest? name commit.2.payloads = none := by
          simpa [Write.Carries] using hcarries
        have hown : newest? name (payloadsOf [commit] tenure) = none := by
          by_cases htenure : commit.1 = tenure
          · simpa [payloadsOf, payloads, htenure] using hnone
          · simp [payloadsOf, payloads, htenure, newest?]
        rw [hnone, hown, ih hlast]

/-- A name that was written has a pump that came last with it. -/
theorem isSome_lastCommitter? (name : String) :
    (log.lastCommitter? name).isSome = (newest? name log.payloads).isSome := by
  induction log using List.reverseRecOn with
  | nil => rfl
  | append_singleton before commit ih =>
      have hpayloads : payloads [commit] = commit.2.payloads := List.append_nil _
      rw [lastCommitter?_append_singleton, payloads_append, newest?_append, hpayloads,
        Option.isSome_or, ← ih]
      split
      next hcarries =>
        have hsome : (newest? name commit.2.payloads).isSome = true := hcarries
        rw [hsome]
        rfl
      next hcarries =>
        have hnone : (newest? name commit.2.payloads).isSome = false := by
          simpa [Write.Carries] using hcarries
        rw [hnone, Bool.false_or]

end CommitLog

/-! ## What a gate does to payloads -/

namespace InitGate

/-- Whether a gate that is past its first snapshot holds nothing. -/
def Passed (gate : InitGate) : Prop := gate.phase ≠ .buffering → gate.initial.items = []

theorem passed_new (window : Nat) : (new window).Passed := fun _ => rfl

/-- Whether a gate conveys what it receives: it stays one that holds nothing past its first
snapshot, the payloads that it held and received are those that it lets out and holds, in the
same order, and it lets out a snapshot or what it received. -/
structure Conveys (gate : InitGate) (received : Option WatchEvent)
    (result : InitGate × Option WatchEvent) : Prop where
  passed : result.1.Passed
  payloads_eq : result.2.toList.flatMap WatchEvent.payloads ++ result.1.initial.items =
    gate.initial.items ++ received.toList.flatMap WatchEvent.payloads
  origin : ∀ event ∈ result.2, (∃ items, event = .init items) ∨ received = some event

variable {gate : InitGate}

theorem conveys_release {received : Option WatchEvent} {more : List Json}
    (hmore : received.toList.flatMap WatchEvent.payloads = more) :
    gate.Conveys received ((gate.release more).map id some) where
  passed _ := rfl
  payloads_eq := by
    rw [hmore]
    simp [release, WatchEvent.payloads, Burst.emptied, Burst.new]
  origin := by simp [release]

theorem conveys_flush (hpassed : gate.Passed) : gate.Conveys none gate.flush := by
  by_cases hitems : gate.initial.items = []
  · rw [flush_of_no_items hitems]
    exact ⟨hpassed, by simp, by simp⟩
  · have hphase : gate.phase = .buffering := by
      by_contra hphase
      exact hitems (hpassed hphase)
    rw [flush_of_items hphase hitems]
    exact conveys_release rfl

theorem conveys_offer (hpassed : gate.Passed) (event : WatchEvent) (now : Nat) :
    gate.Conveys (some event) (gate.offer event now) := by
  by_cases hphase : gate.phase = .buffering
  · cases hobject : event.object? with
    | none =>
        obtain ⟨items, rfl⟩ := WatchEvent.exists_init hobject
        have hoffer : gate.offer (.init items) now = (gate.release items).map id some := by
          simp [offer, hphase]
        rw [hoffer]
        exact conveys_release (by simp [WatchEvent.payloads])
    | some object =>
        have hpayloads : event.payloads = [object] := by
          cases event <;> simp_all [WatchEvent.object?, WatchEvent.payloads]
        rw [offer_of_object hphase hobject]
        exact ⟨fun hnot => absurd hphase hnot, by simp [Burst.push, hpayloads], by simp⟩
  · rw [offer_of_passed hphase]
    exact ⟨fun _ => hpassed hphase, by simp [hpassed hphase], by simp⟩

theorem conveys_feed (hpassed : gate.Passed) (input : PumpInput) :
    gate.Conveys input.event? (gate.feed input) := by
  cases input with
  | event event now => exact conveys_offer hpassed event now
  | due => exact conveys_flush hpassed
  | ended => exact conveys_flush hpassed

end InitGate

/-! ## What a run writes -/

/-- Whether an event sets objects and removes none. -/
def WatchEvent.IsAdditive (event : WatchEvent) : Prop := ∀ object, event ≠ .deleted object

/-- Whether a write brings an event of a stream that removes nothing. -/
def Write.IsAdditive (kind : Kind) (env : String) (write : Write) : Prop :=
  ∃ event : WatchEvent, event.IsAdditive ∧ write = .apply kind env event

/-- How a pump stands that has written some payloads of its stream: those it holds and those
that wait for it are the rest, in their order. -/
structure PumpTask.Owes (task : PumpTask) (kind : Kind) (env : String) (contents : List Json)
    (written : List Json) : Prop where
  kind_eq : task.pump.kind = kind
  env_eq : task.pump.env = env
  passed : task.pump.gate.Passed
  additive : ∀ event ∈ task.queue, event.IsAdditive
  contents_eq : written ++ task.pump.gate.initial.items ++
    task.queue.flatMap WatchEvent.payloads = contents

namespace PumpTask

variable {task next : PumpTask} {kind : Kind} {env : String} {contents written : List Json}

theorem feed_eq (task : PumpTask) (input : PumpInput) (queue : List WatchEvent) (exited : Bool) :
    task.feed input queue exited =
      (⟨⟨task.pump.kind, task.pump.env, (task.pump.gate.feed input).1⟩, queue, exited⟩,
        (task.pump.gate.feed input).2.toList.map (.apply task.pump.kind task.pump.env)) := by
  cases input <;> rfl

theorem Owes.feed (howes : task.Owes kind env contents written) {input : PumpInput}
    {queue : List WatchEvent} (hqueue : task.queue = input.event?.toList ++ queue)
    (exited : Bool) :
    (task.feed input queue exited).1.Owes kind env contents
        (written ++ (task.feed input queue exited).2.flatMap Write.payloads) ∧
      ∀ write ∈ (task.feed input queue exited).2, write.IsAdditive kind env := by
  have hconveys := InitGate.conveys_feed howes.passed input
  rw [feed_eq, howes.kind_eq, howes.env_eq]
  refine ⟨⟨rfl, rfl, hconveys.passed, ?_, ?_⟩, ?_⟩
  · intro event hmem
    exact howes.additive event (hqueue ▸ List.mem_append_right _ hmem)
  · have hwritten : ∀ events : List WatchEvent,
        (events.map (Write.apply kind env)).flatMap Write.payloads =
          events.flatMap WatchEvent.payloads := by
      intro events
      rw [List.flatMap_map]
      rfl
    rw [hwritten, List.append_assoc written, hconveys.payloads_eq, ← howes.contents_eq, hqueue,
      List.flatMap_append]
    simp only [List.append_assoc]
  · intro write hmem
    obtain ⟨event, hevent, rfl⟩ := List.mem_map.mp hmem
    refine ⟨event, ?_, rfl⟩
    rcases hconveys.origin event (Option.mem_toList.mp hevent) with ⟨items, rfl⟩ | hreceived
    · exact fun object => nofun
    · apply howes.additive
      rw [hqueue, hreceived]
      exact List.mem_cons_self

theorem Owes.move (howes : task.Owes kind env contents written) {move : PumpMove}
    {writes : List Write} (hmove : task.move? move = some (next, writes)) :
    next.Owes kind env contents (written ++ writes.flatMap Write.payloads) ∧
      ∀ write ∈ writes, write.IsAdditive kind env := by
  -- Whatever the move is, it feeds the pump one input and takes no other event from the queue.
  have hfed : ∃ (input : PumpInput) (queue : List WatchEvent) (exited : Bool),
      task.queue = input.event?.toList ++ queue ∧
        task.feed input queue exited = (next, writes) := by
    unfold move? at hmove
    split at hmove
    next => cases hmove
    next =>
      split at hmove
      next now event rest hqueue =>
        exact ⟨.event event now, rest, false, hqueue, Option.some.inj hmove⟩
      next => cases hmove
      next queue =>
        split at hmove
        next => exact ⟨.due, _, false, rfl, Option.some.inj hmove⟩
        next => cases hmove
      next hqueue => exact ⟨.ended, [], true, hqueue, Option.some.inj hmove⟩
      next => cases hmove
  obtain ⟨input, queue, exited, hqueue, hfeed⟩ := hfed
  have hnext := howes.feed hqueue exited
  rw [hfeed] at hnext
  exact hnext

end PumpTask

/-! ## What a schedule leaves -/

namespace Handover

variable (handover : Handover)

/-- What holds between the moves of two pumps: the world is what the commits made of the first
one, which only bring what sets objects, and each pump owes the rest of its stream. -/
structure Accounts (world : World) (kind : Kind) (env : String)
    (contents : Tenure → List Json) : Prop where
  world_eq : handover.world = world.commitAll (handover.commits.map Prod.snd)
  additive : ∀ commit ∈ handover.commits, commit.2.IsAdditive kind env
  owes : ∀ tenure,
    (handover.task tenure).Owes kind env (contents tenure) (handover.commits.payloadsOf tenure)

variable {handover : Handover} {world : World} {kind : Kind} {env : String}
  {contents : Tenure → List Json}

theorem accounts_start (world : World) (kind : Kind) (env : String) (window : Nat)
    {events : Tenure → List WatchEvent}
    (hadditive : ∀ tenure, ∀ event ∈ events tenure, event.IsAdditive) :
    (start world kind env window events).Accounts world kind env fun tenure =>
      (events tenure).flatMap WatchEvent.payloads where
  world_eq := rfl
  additive := nofun
  owes tenure := ⟨rfl, rfl, InitGate.passed_new window, hadditive tenure, rfl⟩

theorem Accounts.step (haccounts : handover.Accounts world kind env contents) {tenure : Tenure}
    {move : PumpMove} {next : Handover} (hstep : handover.step? tenure move = some next) :
    next.Accounts world kind env contents := by
  obtain ⟨⟨task, writes⟩, hmove, rfl⟩ := Option.map_eq_some_iff.mp hstep
  obtain ⟨howes, hadditive⟩ := (haccounts.owes tenure).move hmove
  refine ⟨?_, ?_, ?_⟩
  · have hwrites : (writes.map (tenure, ·)).map Prod.snd = writes := by
      simp [Function.comp_def]
    rw [List.map_append, hwrites, World.commitAll, List.foldl_append, haccounts.world_eq]
    rfl
  · intro commit hmem
    rcases List.mem_append.mp hmem with hbefore | hnow
    · exact haccounts.additive commit hbefore
    · obtain ⟨write, hwrite, rfl⟩ := List.mem_map.mp hnow
      exact hadditive write hwrite
  · -- The pump that moved has written more of its stream, and the other one stands as it did.
    intro other
    rw [CommitLog.payloadsOf_append, CommitLog.payloadsOf_map]
    by_cases hother : other = tenure
    · subst hother
      simpa using howes
    · simpa [hother] using haccounts.owes other

theorem Accounts.run (haccounts : handover.Accounts world kind env contents)
    {schedule : List (Tenure × PumpMove)} {final : Handover}
    (hrun : handover.run? schedule = some final) : final.Accounts world kind env contents := by
  induction schedule generalizing handover with
  | nil =>
      obtain rfl : handover = final := Option.some.inj hrun
      exact haccounts
  | cons first rest ih =>
      obtain ⟨next, hstep, hrest⟩ := Option.bind_eq_some_iff.mp hrun
      exact ih (haccounts.step hstep) hrest

/-- A pump that has nothing left to write has written its stream in its order. -/
theorem Accounts.written_eq (haccounts : handover.Accounts world kind env contents)
    (hdrained : handover.Drained) (tenure : Tenure) :
    handover.commits.payloadsOf tenure = contents tenure := by
  obtain ⟨hqueue, hbuffered⟩ := hdrained tenure
  have hitems : (handover.task tenure).pump.gate.initial.items = [] :=
    List.length_eq_zero_iff.mp hbuffered
  rw [← (haccounts.owes tenure).contents_eq, hqueue, hitems]
  simp

end Handover

/-! ## The object of a name -/

theorem RecordEdit.object_foldl_setObject (name : String) (record : Option Record)
    (objects : List Resource) :
    ((objects.map setObject).foldl (RecordEdit.apply name) record).bind Record.object =
      objects.getLast?.or (record.bind Record.object) := by
  rw [foldl_setObject]
  cases objects.getLast? <;> rfl

/-- A write that removes nothing sets the objects of the payloads that it brings. -/
theorem Write.IsAdditive.editsOf_eq {kind : Kind} {env : String} {write : Write}
    (hadditive : write.IsAdditive kind env) (name : String) :
    write.editsOf kind env name =
      (write.payloads.filter fun payload => objectName? payload = some name).map fun payload =>
        .setObject ⟨kind, payload⟩ := by
  obtain ⟨event, hevent, rfl⟩ := hadditive
  cases event with
  | init items => simp [editsOf, WatchEvent.editsOf, payloads, WatchEvent.payloads]
  | added object =>
      by_cases hname : objectName? object = some name <;>
        simp [editsOf, WatchEvent.editsOf, payloads, WatchEvent.payloads, hname]
  | modified object =>
      by_cases hname : objectName? object = some name <;>
        simp [editsOf, WatchEvent.editsOf, payloads, WatchEvent.payloads, hname]
  | deleted object => exact absurd rfl (hevent object)

/-- After writes that remove nothing a name has the newest of its payloads. -/
theorem World.object_commitAll (world : World) {kind : Kind} {env : String} {log : CommitLog}
    (hadditive : ∀ commit ∈ log, commit.2.IsAdditive kind env) (name : String) :
    ((world.commitAll (log.map Prod.snd)).record? kind env name).bind Record.object =
      ((newest? name log.payloads).map (Resource.mk kind)).or
        ((world.record? kind env name).bind Record.object) := by
  have hedits : (log.map Prod.snd).flatMap (Write.editsOf kind env name) =
      ((log.payloads.filter fun payload => objectName? payload = some name).map
        (Resource.mk kind)).map .setObject := by
    rw [List.flatMap_map, CommitLog.payloads, List.filter_flatMap, List.map_flatMap,
      List.map_flatMap]
    apply List.flatMap_congr
    intro commit hmem
    rw [(hadditive commit hmem).editsOf_eq name, List.map_map]
    rfl
  rw [record?_commitAll, hedits, RecordEdit.object_foldl_setObject, List.getLast?_map]
  rfl

/-! ## Late events -/

namespace Handover

/-- Whether a name keeps the newest payload of the two streams, those of the latter one being
newer, whatever the schedule is. -/
def KeepsNewest (world : World) (kind : Kind) (env : String) (window : Nat)
    (events : Tenure → List WatchEvent) : Prop :=
  ∀ schedule final, (start world kind env window events).run? schedule = some final →
    final.Drained → ∀ name payload,
      newest? name ((events .former ++ events .latter).flatMap WatchEvent.payloads) =
        some payload →
      (final.world.record? kind env name).bind Record.object = some ⟨kind, payload⟩

/-- A pod that was pending for the former stream and runs for the latter one. -/
def lateAddition : Tenure → List WatchEvent
  | .former => [.added (nameAndPhase "a" "Pending")]
  | .latter => [.init [nameAndPhase "a" "Running"]]

theorem additive_lateAddition : ∀ tenure, ∀ event ∈ lateAddition tenure, event.IsAdditive := by
  rintro (_ | _) event hmem object rfl <;> simp [lateAddition] at hmem

/-- The snapshot of the latter stream comes first, and then the former pump exits with what it
held. -/
def formerLast : List (Tenure × PumpMove) :=
  [(.latter, .receive 0), (.former, .receive 1), (.former, .exit)]

/-- The same moves with the exit of the former pump in front. -/
def formerFirst : List (Tenure × PumpMove) :=
  [(.former, .receive 0), (.former, .exit), (.latter, .receive 1)]

/-- The object that a pump lets out when it exits overwrites the newer one of the stream that
took over. -/
theorem former_overwrites_latter :
    (∀ tenure, ∀ event ∈ lateAddition tenure, event.IsAdditive) ∧
      ¬KeepsNewest .new .pod "prod" 200 lateAddition := by
  refine ⟨additive_lateAddition, ?_⟩
  intro hkeeps
  obtain ⟨final, hrun, hdrained, hobject⟩ : ∃ final,
      (start .new .pod "prod" 200 lateAddition).run? formerLast = some final ∧
        final.Drained ∧ (final.world.record? .pod "prod" "a").bind Record.object =
          some ⟨.pod, nameAndPhase "a" "Pending"⟩ := by
    refine ⟨_, rfl, ?_, rfl⟩
    rintro (_ | _) <;> exact ⟨rfl, rfl⟩
  have hkept := hkeeps formerLast final hrun hdrained "a" (nameAndPhase "a" "Running") rfl
  rw [hobject] at hkept
  simp [nameAndPhase] at hkept

/-- When both pumps are through, each has written its stream in its order, and a name has the
newest payload of the stream whose pump came last with it. This is the newest payload of the
two streams where the latter pump came last with the name, and where the latter stream does not
carry the name. -/
theorem object_of_lastCommitter (world : World) (kind : Kind) (env : String) (window : Nat)
    (events : Tenure → List WatchEvent)
    (hadditive : ∀ tenure, ∀ event ∈ events tenure, event.IsAdditive)
    (schedule : List (Tenure × PumpMove)) (final : Handover)
    (hrun : (start world kind env window events).run? schedule = some final)
    (hdrained : final.Drained) :
    (∀ tenure, final.commits.payloadsOf tenure = (events tenure).flatMap WatchEvent.payloads) ∧
      ∀ name newest,
        newest? name ((events .former ++ events .latter).flatMap WatchEvent.payloads) =
          some newest →
        ∃ committer payload, final.commits.lastCommitter? name = some committer ∧
          newest? name ((events committer).flatMap WatchEvent.payloads) = some payload ∧
          (final.world.record? kind env name).bind Record.object = some ⟨kind, payload⟩ ∧
          (committer = .latter ∨
              newest? name ((events .latter).flatMap WatchEvent.payloads) = none →
            payload = newest) := by
  have haccounts := (accounts_start world kind env window hadditive).run hrun
  have hwritten := haccounts.written_eq hdrained
  refine ⟨hwritten, ?_⟩
  intro name newest hnewest
  rw [List.flatMap_append, newest?_append] at hnewest
  have hcommitted : (final.commits.lastCommitter? name).isSome := by
    by_contra hnone
    rw [CommitLog.isSome_lastCommitter?, Option.not_isSome_iff_eq_none,
      newest?_eq_none_iff] at hnone
    have hfree : ∀ tenure, newest? name ((events tenure).flatMap WatchEvent.payloads) = none := by
      intro tenure
      rw [← hwritten tenure, newest?_eq_none_iff]
      exact fun payload hmem => hnone payload (final.commits.payloadsOf_subset tenure hmem)
    rw [hfree .latter, hfree .former] at hnewest
    cases hnewest
  obtain ⟨committer, hlast⟩ := Option.isSome_iff_exists.mp hcommitted
  have hown : newest? name final.commits.payloads =
      newest? name ((events committer).flatMap WatchEvent.payloads) := by
    rw [CommitLog.newest?_payloads _ name hlast, hwritten committer]
  rw [CommitLog.isSome_lastCommitter?, hown] at hcommitted
  obtain ⟨payload, hpayload⟩ := Option.isSome_iff_exists.mp hcommitted
  refine ⟨committer, payload, hlast, hpayload, ?_, ?_⟩
  · rw [haccounts.world_eq, World.object_commitAll world haccounts.additive, hown, hpayload]
    rfl
  · intro hcase
    cases committer with
    | latter =>
        rw [hpayload] at hnewest
        exact Option.some.inj hnewest
    | former =>
        have habsent := hcase.resolve_left nofun
        rw [habsent, hpayload] at hnewest
        exact Option.some.inj hnewest

/-- With the exit of the former pump before the snapshot of the latter one, the name keeps the
newer object, and with the exit behind the snapshot it has the older one back. -/
theorem object_of_lastCommitter_lateAddition :
    (∀ tenure, ∀ event ∈ lateAddition tenure, event.IsAdditive) ∧
      (∃ final, (start .new .pod "prod" 200 lateAddition).run? formerFirst = some final ∧
        final.Drained ∧ (final.world.record? .pod "prod" "a").bind Record.object =
          some ⟨.pod, nameAndPhase "a" "Running"⟩) ∧
      ∃ final, (start .new .pod "prod" 200 lateAddition).run? formerLast = some final ∧
        final.Drained ∧ (final.world.record? .pod "prod" "a").bind Record.object =
          some ⟨.pod, nameAndPhase "a" "Pending"⟩ := by
  refine ⟨additive_lateAddition, ?_, ?_⟩
  · obtain ⟨final, hrun, hdrained, hlast⟩ : ∃ final,
        (start .new .pod "prod" 200 lateAddition).run? formerFirst = some final ∧
          final.Drained ∧ final.commits.lastCommitter? "a" = some .latter := by
      refine ⟨_, rfl, ?_, rfl⟩
      rintro (_ | _) <;> exact ⟨rfl, rfl⟩
    obtain ⟨-, hobjects⟩ := object_of_lastCommitter .new .pod "prod" 200 lateAddition
      additive_lateAddition formerFirst final hrun hdrained
    obtain ⟨committer, payload, hcommitter, -, hobject, hnewest⟩ :=
      hobjects "a" (nameAndPhase "a" "Running") rfl
    rw [hlast] at hcommitter
    rw [hnewest (.inl (Option.some.inj hcommitter).symm)] at hobject
    exact ⟨final, hrun, hdrained, hobject⟩
  · obtain ⟨final, hrun, hdrained, hlast⟩ : ∃ final,
        (start .new .pod "prod" 200 lateAddition).run? formerLast = some final ∧
          final.Drained ∧ final.commits.lastCommitter? "a" = some .former := by
      refine ⟨_, rfl, ?_, rfl⟩
      rintro (_ | _) <;> exact ⟨rfl, rfl⟩
    obtain ⟨-, hobjects⟩ := object_of_lastCommitter .new .pod "prod" 200 lateAddition
      additive_lateAddition formerLast final hrun hdrained
    obtain ⟨committer, payload, hcommitter, hpayload, hobject, -⟩ :=
      hobjects "a" (nameAndPhase "a" "Running") rfl
    rw [hlast] at hcommitter
    obtain rfl := Option.some.inj hcommitter
    obtain rfl : nameAndPhase "a" "Pending" = payload := Option.some.inj hpayload
    exact ⟨final, hrun, hdrained, hobject⟩

end Handover

end ResourceWatch
