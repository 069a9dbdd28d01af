import ResourceWatch.Proofs.RecordHistory
import ResourceWatch.Pump

/-! # Gated pumps replay their streams

The pump of a resource stream collects objects, writes them as one snapshot when its
deadline comes, when a snapshot arrives or when its stream ends, and then passes events
on. Nobody who reads the records can tell: they are what the received events make of
them one at a time, except that a deletion counts as an addition while the gate still
collects. Taken apart into changes of one object, what goes in comes out again in the
same order, and this carries over to the edits of each record.
-/

namespace ResourceWatch

/-! ## Traces -/

/-- The event that an input brings. -/
def PumpInput.event? : PumpInput → Option WatchEvent
  | .event change _ => some change
  | .due | .ended => none

namespace InitGate

/-- What a gate does with an input of its pump. -/
def feed (gate : InitGate) : PumpInput → InitGate × Option WatchEvent
  | .event event now => gate.offer event now
  | .due => gate.flush
  | .ended => gate.flush

/-- The gate after a list of inputs, and the events that it lets out. -/
def run (gate : InitGate) : List PumpInput → InitGate × List WatchEvent
  | [] => (gate, [])
  | input :: rest =>
    let (next, out) := gate.feed input
    let (last, more) := next.run rest
    (last, out.toList ++ more)

/-- The inputs of a pump until it exits. Its deadline comes only where the gate has one,
at any time, and the end of the stream is the last input. -/
def IsTrace (gate : InitGate) : List PumpInput → Prop
  | [] => False
  | .event event now :: rest => (gate.offer event now).1.IsTrace rest
  | .due :: rest => gate.deadline.isSome ∧ gate.flush.1.IsTrace rest
  | .ended :: rest => rest = []

end InitGate

namespace Trace

/-- All events that a trace brings. -/
def received (trace : List PumpInput) : List WatchEvent := trace.filterMap PumpInput.event?

/-- The events that a trace brings while the gate still collects: those before the first
snapshot, the first deadline and the end. -/
def early : List PumpInput → List WatchEvent
  | .event (.init _) _ :: _ => []
  | .event event _ :: rest => event :: early rest
  | _ => []

/-- How an event counts that a gate receives while it collects. -/
def asCollected : WatchEvent → WatchEvent
  | .deleted object => .added object
  | event => event

/-- The events of a trace as a plain replay applies them: a deletion counts as an
addition while the gate collects. -/
def replayed (trace : List PumpInput) : List WatchEvent :=
  (early trace).map asCollected ++ (received trace).drop (early trace).length

end Trace

/-- The store after a list of events, applied one at a time. -/
def Store.follow (store : Store) (env : String) (kind : Kind) (events : List WatchEvent) :
    Store :=
  events.foldl (fun store event => store.apply env kind event) store

/-- The world after the pump of a stream went through its inputs. -/
def World.pumped (world : World) (kind : Kind) (env : String) (window : Nat)
    (trace : List PumpInput) : World :=
  world.commitAll ((Pump.watch (.new kind env window)).run trace).2

/-! ## Events taken apart -/

namespace WatchEvent

/-- An event as changes of one object each. A snapshot adds its items, and a
modification does what an addition does. -/
def parts : WatchEvent → List WatchEvent
  | init items => items.map added
  | added object | modified object => [added object]
  | deleted object => [deleted object]

theorem editsOf_eq_flatMap_parts (kind : Kind) (name : String) (event : WatchEvent) :
    event.editsOf kind name = event.parts.flatMap (editsOf kind name) := by
  cases event with
  | init items =>
      induction items with
      | nil => rfl
      | cons item rest ih =>
          rw [editsOf_init_cons, ih]
          rfl
  | added object => exact (List.append_nil _).symm
  | modified object => exact (List.append_nil _).symm
  | deleted object => exact (List.append_nil _).symm

theorem payloads_eq_flatMap_parts (event : WatchEvent) :
    event.payloads = event.parts.flatMap payloads := by
  cases event with
  | init items =>
      induction items with
      | nil => rfl
      | cons item rest ih => exact congrArg (item :: ·) ih
  | added object => rfl
  | modified object => rfl
  | deleted object => rfl

/-- An event without a single object is a snapshot. -/
theorem exists_init {event : WatchEvent} (hobject : event.object? = none) :
    ∃ items, event = init items := by
  cases event with
  | init items => exact ⟨items, rfl⟩
  | added object => cases hobject
  | modified object => cases hobject
  | deleted object => cases hobject

/-- Events with the same parts ask for the same edits. -/
theorem flatMap_editsOf_congr (kind : Kind) (name : String) {events others : List WatchEvent}
    (hparts : events.flatMap parts = others.flatMap parts) :
    events.flatMap (editsOf kind name) = others.flatMap (editsOf kind name) := by
  have hfactor : ∀ list : List WatchEvent, list.flatMap (editsOf kind name) =
      (list.flatMap parts).flatMap (editsOf kind name) := by
    intro list
    rw [List.flatMap_assoc]
    exact congrArg (list.flatMap ·) (funext (editsOf_eq_flatMap_parts kind name))
  rw [hfactor events, hfactor others, hparts]

/-- Events with the same parts carry the same payloads. -/
theorem flatMap_payloads_congr {events others : List WatchEvent}
    (hparts : events.flatMap parts = others.flatMap parts) :
    events.flatMap payloads = others.flatMap payloads := by
  have hfactor : ∀ list : List WatchEvent, list.flatMap payloads =
      (list.flatMap parts).flatMap payloads := by
    intro list
    rw [List.flatMap_assoc]
    exact congrArg (list.flatMap ·) (funext payloads_eq_flatMap_parts)
  rw [hfactor events, hfactor others, hparts]

end WatchEvent

/-! ## What the gate lets out -/

/-- A collection has a deadline exactly while it holds something. -/
def Burst.Armed {α : Type} (burst : Burst α) : Prop := burst.deadline.isSome ↔ burst.items ≠ []

theorem Burst.armed_new {α : Type} (window : Nat) : (new window : Burst α).Armed := by
  simp [Armed, new]

theorem Burst.armed_push {α : Type} (burst : Burst α) (item : α) (now : Nat) :
    (burst.push item now).Armed := by
  simp [Armed, push]

namespace Trace

theorem replayed_of_early_nil {trace : List PumpInput} (hearly : early trace = []) :
    replayed trace = received trace := by
  simp [replayed, hearly]

/-- A change of one object that a gate collects is the next of the replay. -/
theorem replayed_cons {event : WatchEvent} {object : Json}
    (hobject : event.object? = some object) (now : Nat) (rest : List PumpInput) :
    early (.event event now :: rest) = event :: early rest ∧
      replayed (.event event now :: rest) = asCollected event :: replayed rest := by
  have hearly : early (.event event now :: rest) = event :: early rest := by
    cases event with
    | init items => cases hobject
    | added object => rfl
    | modified object => rfl
    | deleted object => rfl
  refine ⟨hearly, ?_⟩
  simp [replayed, hearly, received, PumpInput.event?]

/-- The collected form of a change adds its object. -/
theorem parts_asCollected {event : WatchEvent} {object : Json}
    (hobject : event.object? = some object) : (asCollected event).parts = [.added object] := by
  cases event <;> simp_all [WatchEvent.object?, asCollected, WatchEvent.parts]

/-- Without an early deletion the replay applies the events as they are. -/
theorem replayed_eq_received {trace : List PumpInput}
    (hearly : ∀ object, .deleted object ∉ early trace) : replayed trace = received trace := by
  induction trace with
  | nil => rfl
  | cons input rest ih =>
      cases input with
      | event event now =>
          cases hobject : event.object? with
          | none =>
              obtain ⟨items, rfl⟩ := WatchEvent.exists_init hobject
              exact replayed_of_early_nil rfl
          | some object =>
              obtain ⟨hcons, hreplayed⟩ := replayed_cons hobject now rest
              rw [hcons] at hearly
              have hevent : asCollected event = event := by
                cases event with
                | deleted object => exact absurd List.mem_cons_self (hearly object)
                | init items => rfl
                | added object => rfl
                | modified object => rfl
              have hrest := ih fun object hmem => hearly object (List.mem_cons_of_mem _ hmem)
              rw [hreplayed, hevent, hrest]
              rfl
      | due => exact replayed_of_early_nil rfl
      | ended => exact replayed_of_early_nil rfl

/-- The replay carries the payloads that were received. -/
theorem payloads_replayed (trace : List PumpInput) :
    (replayed trace).flatMap WatchEvent.payloads =
      (received trace).flatMap WatchEvent.payloads := by
  induction trace with
  | nil => rfl
  | cons input rest ih =>
      cases input with
      | event event now =>
          cases hobject : event.object? with
          | none =>
              obtain ⟨items, rfl⟩ := WatchEvent.exists_init hobject
              rw [replayed_of_early_nil rfl]
          | some object =>
              have hpayloads : (asCollected event).payloads = event.payloads := by
                cases event <;> rfl
              have hreceived : received (.event event now :: rest) = event :: received rest := rfl
              rw [(replayed_cons hobject now rest).2, hreceived, List.flatMap_cons,
                List.flatMap_cons, hpayloads, ih]
      | due => rw [replayed_of_early_nil rfl]
      | ended => rw [replayed_of_early_nil rfl]

end Trace

namespace InitGate

open Trace

/-- While a gate collects, a change of one object joins the collection whatever its type
is. -/
theorem offer_of_object {gate : InitGate} (hphase : gate.phase = .buffering)
    {event : WatchEvent} {object : Json} (hobject : event.object? = some object) (now : Nat) :
    gate.offer event now = ({ gate with initial := gate.initial.push object now }, none) := by
  cases event <;> simp_all [offer, WatchEvent.object?]

theorem flush_of_items {gate : InitGate} (hphase : gate.phase = .buffering)
    (hitems : gate.initial.items ≠ []) : gate.flush = (gate.release []).map id some := by
  unfold flush
  rw [if_pos]
  simpa [hphase, Burst.isEmpty] using hitems

theorem flush_of_no_items {gate : InitGate} (hitems : gate.initial.items = []) :
    gate.flush = (gate, none) := by
  unfold flush
  rw [if_neg]
  simp [Burst.isEmpty, hitems]

theorem flush_of_passed {gate : InitGate} (hphase : gate.phase ≠ .buffering) :
    gate.flush = (gate, none) := by
  unfold flush
  rw [if_neg]
  simp [hphase]

theorem offer_of_passed {gate : InitGate} (hphase : gate.phase ≠ .buffering)
    (event : WatchEvent) (now : Nat) :
    gate.offer event now = ({ gate with phase := .streaming }, some event) := by
  unfold offer
  cases hgate : gate.phase with
  | buffering => exact absurd hgate hphase
  | flushed => rfl
  | streaming => rfl

/-- A gate that is past its first snapshot lets every event out as it is and collects
nothing. -/
theorem run_of_passed {gate : InitGate} (hphase : gate.phase ≠ .buffering)
    (trace : List PumpInput) :
    (gate.run trace).1.initial = gate.initial ∧ (gate.run trace).2 = received trace := by
  induction trace generalizing gate with
  | nil => exact ⟨rfl, rfl⟩
  | cons input rest ih =>
      cases input with
      | event event now =>
          let streaming : InitGate := { gate with phase := .streaming }
          have hstreaming : streaming.phase ≠ .buffering := by simp [streaming]
          have hrest := ih hstreaming
          simp only [run, feed, offer_of_passed hphase]
          exact ⟨hrest.1, congrArg (event :: ·) hrest.2⟩
      | due =>
          simp only [run, feed, flush_of_passed hphase]
          exact ih hphase
      | ended =>
          simp only [run, feed, flush_of_passed hphase]
          exact ih hphase

/-- Over some inputs a gate lets out, taken apart, what it holds and then what a plain
replay applies, and at the end it holds nothing. -/
def Conserves (gate : InitGate) (trace : List PumpInput) : Prop :=
  (gate.run trace).1.buffered = 0 ∧
    (gate.run trace).2.flatMap WatchEvent.parts =
      gate.initial.items.map .added ++ (replayed trace).flatMap WatchEvent.parts

theorem conserves_collected {gate : InitGate} (hphase : gate.phase = .buffering)
    {event : WatchEvent} {object : Json} (hobject : event.object? = some object) (now : Nat)
    {rest : List PumpInput}
    (hrest : { gate with initial := gate.initial.push object now }.Conserves rest) :
    gate.Conserves (.event event now :: rest) := by
  unfold Conserves at hrest ⊢
  simp only [run, feed, offer_of_object hphase hobject]
  refine ⟨hrest.1, ?_⟩
  rw [(replayed_cons hobject now rest).2, List.flatMap_cons, parts_asCollected hobject]
  simpa [Burst.push] using hrest.2

/-- Whatever lets the collection out, with more behind it, ends the early part of the
trace. -/
theorem conserves_released {gate : InitGate} {input : PumpInput} (more : List Json)
    {rest : List PumpInput} (hfeed : gate.feed input = (gate.release more).map id some)
    (hearly : early (input :: rest) = [])
    (hmore : (received [input]).flatMap WatchEvent.parts = more.map .added) :
    gate.Conserves (input :: rest) := by
  have hpassed : (gate.release more).1.phase ≠ .buffering := by simp [release]
  obtain ⟨hinitial, hout⟩ := run_of_passed hpassed rest
  have hreceived : received (input :: rest) = received [input] ++ received rest := by
    rw [← List.singleton_append, received, List.filterMap_append]
    rfl
  unfold Conserves
  simp only [run, hfeed, Prod.map_fst, Prod.map_snd, id]
  refine ⟨?_, ?_⟩
  · rw [buffered, hinitial]
    rfl
  · rw [hout, replayed_of_early_nil hearly, hreceived, List.flatMap_append,
      List.flatMap_append, hmore]
    simp [release, WatchEvent.parts]

/-- A gate that collects conserves every whole trace. -/
theorem conserves_of_isTrace {gate : InitGate} (hphase : gate.phase = .buffering)
    (harmed : gate.initial.Armed) {trace : List PumpInput} (htrace : gate.IsTrace trace) :
    gate.Conserves trace := by
  -- Along the induction the gate collects. What lets the collection out is followed by a
  -- gate that only passes events on, and `conserves_released` speaks of all the rest.
  induction trace generalizing gate with
  | nil => exact absurd htrace id
  | cons input rest ih =>
      cases input with
      | event event now =>
          cases hobject : event.object? with
          | none =>
              obtain ⟨items, rfl⟩ := WatchEvent.exists_init hobject
              apply conserves_released items
              · simp [feed, offer, hphase]
              · rfl
              · simp [received, PumpInput.event?, WatchEvent.parts]
          | some object =>
              rw [IsTrace, offer_of_object hphase hobject] at htrace
              apply conserves_collected hphase hobject now
              exact ih hphase (gate.initial.armed_push object now) htrace
      | due =>
          have hitems : gate.initial.items ≠ [] := by
            apply harmed.mp
            simpa [deadline, hphase] using htrace.1
          exact conserves_released [] (flush_of_items hphase hitems) rfl rfl
      | ended =>
          have hrest : rest = [] := htrace
          subst hrest
          by_cases hitems : gate.initial.items = []
          · unfold Conserves
            simp only [run, feed, flush_of_no_items hitems]
            simp [buffered, Burst.size, hitems, replayed, early, received, PumpInput.event?]
          · exact conserves_released [] (flush_of_items hphase hitems) rfl rfl

end InitGate

/-! ## What pumps write -/

/-- The pump of a resource stream writes what its gate lets out, one write for each
event. -/
theorem Pump.run_watch (kind : Kind) (env : String) (gate : InitGate)
    (trace : List PumpInput) :
    (Pump.watch ⟨kind, env, gate⟩).run trace =
      (.watch ⟨kind, env, (gate.run trace).1⟩, (gate.run trace).2.map (.apply kind env)) := by
  induction trace generalizing gate with
  | nil => rfl
  | cons input rest ih =>
      have hstep : (Pump.watch ⟨kind, env, gate⟩).step input =
          (.watch ⟨kind, env, (gate.feed input).1⟩,
            (gate.feed input).2.toList.map (.apply kind env)) := by
        cases input <;> rfl
      rw [Pump.run, hstep, InitGate.run]
      simp only [ih, List.map_append]

theorem Write.flatMap_editsOf_apply (kind other : Kind) (env otherEnv name : String)
    (events : List WatchEvent) :
    (events.map (Write.apply kind env)).flatMap (Write.editsOf other otherEnv name) =
      if kind = other ∧ env = otherEnv then events.flatMap (WatchEvent.editsOf other name)
      else [] := by
  rw [List.flatMap_map]
  split
  next hkey => simp [Write.editsOf, hkey]
  next hkey => simp [Write.editsOf, hkey]

theorem Store.record?_follow (store : Store) (env : String) (kind : Kind)
    (events : List WatchEvent) (name : String) :
    (store.follow env kind events).record? env name =
      (events.flatMap (WatchEvent.editsOf kind name)).foldl (RecordEdit.apply name)
        (store.record? env name) := by
  induction events generalizing store with
  | nil => rfl
  | cons event rest ih =>
      have hstep : store.follow env kind (event :: rest) =
          (store.apply env kind event).follow env kind rest := rfl
      rw [hstep, ih, record?_apply, if_pos rfl, List.flatMap_cons, List.foldl_append]

namespace World

open Trace

theorem record?_pumped (world : World) (kind other : Kind) (env otherEnv name : String)
    (window : Nat) (trace : List PumpInput) :
    (world.pumped kind env window trace).record? other otherEnv name =
      (if kind = other ∧ env = otherEnv then
        ((InitGate.new window).run trace).2.flatMap (WatchEvent.editsOf other name)
      else []).foldl (RecordEdit.apply name) (world.record? other otherEnv name) := by
  rw [pumped, WatchPump.new, Pump.run_watch, record?_commitAll, Write.flatMap_editsOf_apply]

theorem record?_pumped_eq_follow (world : World) (kind : Kind) (env : String) (window : Nat)
    {trace : List PumpInput} (htrace : (InitGate.new window).IsTrace trace) (name : String) :
    (world.pumped kind env window trace).record? kind env name =
      ((world.storeOrNew kind).follow env kind (replayed trace)).record? env name := by
  have hparts := (InitGate.conserves_of_isTrace rfl (Burst.armed_new window) htrace).2
  rw [record?_pumped, if_pos ⟨rfl, rfl⟩, Store.record?_follow, record?_storeOrNew,
    WatchEvent.flatMap_editsOf_congr kind name hparts]

/-- After its whole trace the pump of a stream has written what its gate let out and
holds nothing, no payload is lost, the records of its kind and environment are those of
the plain replay, all others are as they were, and each event let out is one epoch.
Where no deletion comes early, the records depend on the received events alone and not
on the deadline. -/
theorem gated_pump_replays (kind : Kind) (env : String) (window : Nat) (world : World)
    (trace : List PumpInput) (htrace : (InitGate.new window).IsTrace trace) :
    (Pump.watch (.new kind env window)).run trace =
        (.watch ⟨kind, env, ((InitGate.new window).run trace).1⟩,
          ((InitGate.new window).run trace).2.map (.apply kind env)) ∧
      ((InitGate.new window).run trace).1.buffered = 0 ∧
      ((InitGate.new window).run trace).2.flatMap WatchEvent.payloads =
        (received trace).flatMap WatchEvent.payloads ∧
      (∀ name, (world.pumped kind env window trace).record? kind env name =
        ((world.storeOrNew kind).follow env kind (replayed trace)).record? env name) ∧
      (∀ other otherEnv name, (other, otherEnv) ≠ (kind, env) →
        (world.pumped kind env window trace).record? other otherEnv name =
          world.record? other otherEnv name) ∧
      (world.pumped kind env window trace).epoch =
        world.epoch + ((InitGate.new window).run trace).2.length ∧
      ((∀ object, .deleted object ∉ early trace) →
        ∀ others, (InitGate.new window).IsTrace others → received others = received trace →
          (∀ object, .deleted object ∉ early others) →
          ∀ name, (world.pumped kind env window others).record? kind env name =
            (world.pumped kind env window trace).record? kind env name) := by
  have hconserves := InitGate.conserves_of_isTrace rfl (Burst.armed_new window) htrace
  refine ⟨Pump.run_watch kind env _ trace, hconserves.1, ?_, ?_, ?_, ?_, ?_⟩
  · rw [WatchEvent.flatMap_payloads_congr hconserves.2]
    exact payloads_replayed trace
  · exact record?_pumped_eq_follow world kind env window htrace
  · intro other otherEnv name hother
    rw [record?_pumped, if_neg]
    · rfl
    · rintro ⟨rfl, rfl⟩
      exact hother rfl
  · rw [pumped, epoch_commitAll, WatchPump.new, Pump.run_watch, List.length_map]
  · -- Both sides are the same plain replay, in which no deadline occurs.
    intro hearly others hothers hreceived hearlyOthers name
    rw [record?_pumped_eq_follow world kind env window hothers,
      record?_pumped_eq_follow world kind env window htrace, replayed_eq_received hearly,
      replayed_eq_received hearlyOthers, hreceived]

/-- A trace with a deletion before the deadline and one after it. -/
def earlyDeletion : List PumpInput :=
  [.event (.added (nameOnly "a")) 0, .event (.deleted (nameOnly "b")) 5, .due,
    .event (.deleted (nameOnly "a")) 900, .ended]

/-- A trace in which the deadline comes before the second event. -/
def promptDeadline : List PumpInput :=
  [.event (.added (nameOnly "a")) 0, .due, .event (.modified (nameOnly "b")) 900, .ended]

/-- The events of `promptDeadline`, with the deadline after the second one. -/
def lateDeadline : List PumpInput :=
  [.event (.added (nameOnly "a")) 0, .event (.modified (nameOnly "b")) 900, .due, .ended]

/-- A deletion before the deadline leaves its object and one after it does not, and
moving the deadline behind a modification changes no record. -/
theorem gated_pump_replays_around_deadline :
    ((InitGate.new 200).IsTrace earlyDeletion ∧
      (∀ name, (new.pumped .pod "prod" 200 earlyDeletion).record? .pod "prod" name =
        ((Store.new .pod).follow "prod" .pod [.added (nameOnly "a"), .added (nameOnly "b"),
          .deleted (nameOnly "a")]).record? "prod" name) ∧
      (new.pumped .pod "prod" 200 earlyDeletion).epoch = 2) ∧
    (InitGate.new 200).IsTrace promptDeadline ∧ (InitGate.new 200).IsTrace lateDeadline ∧
      ∀ name, (new.pumped .pod "prod" 200 lateDeadline).record? .pod "prod" name =
        (new.pumped .pod "prod" 200 promptDeadline).record? .pod "prod" name := by
  have hearly : (InitGate.new 200).IsTrace earlyDeletion := ⟨rfl, rfl⟩
  have hprompt : (InitGate.new 200).IsTrace promptDeadline := ⟨rfl, rfl⟩
  have hlate : (InitGate.new 200).IsTrace lateDeadline := ⟨rfl, rfl⟩
  obtain ⟨-, -, -, hrecords, -, hepoch, -⟩ :=
    gated_pump_replays .pod "prod" 200 new earlyDeletion hearly
  obtain ⟨-, -, -, -, -, -, htiming⟩ :=
    gated_pump_replays .pod "prod" 200 new promptDeadline hprompt
  refine ⟨⟨hearly, hrecords, hepoch⟩, hprompt, hlate, ?_⟩
  exact htiming (by simp [promptDeadline, early]) lateDeadline hlate rfl
    (by simp [lateDeadline, early])

end World

end ResourceWatch
