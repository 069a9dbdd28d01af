import Mathlib.Data.List.Chain
import ResourceWatch.Proofs.PumpClock

/-! # The first snapshot of a stream

The pump of a resource stream writes nothing until its opening burst is over: until the first
snapshot arrives, or a quiet window passes, or the stream ends. Then it writes everything so
far as one snapshot, and from there on each event by itself when it arrives.
-/

namespace ResourceWatch

/-- Whether an event is the last of the opening burst, given the one after it: it is a
snapshot, or no other event follows within the window. -/
def EndsBurst (window : Nat) (event : Timed WatchEvent) (next : Option (Timed WatchEvent)) :
    Prop :=
  (∃ items, event.value = .init items) ∨ ∀ following ∈ next, event.time + window < following.time

/-- When the opening burst is written whose last event is given: at once if that is a snapshot,
and otherwise a window later or at the end of the stream, whichever comes first. -/
def burstTime (window : Nat) (closing : Option Nat) (event : Timed WatchEvent) : Nat :=
  match event.value with
  | .init _ => event.time
  | .added _ | .modified _ | .deleted _ => untilEnd closing (event.time + window)

/-- Each event as a write of its own when it arrives. -/
def passedOn (kind : Kind) (env : String) (events : List (Timed WatchEvent)) :
    List (Timed Write) :=
  events.map fun event => ⟨event.time, .apply kind env event.value⟩

theorem not_init_of_object {event : WatchEvent} {object : Json}
    (hobject : event.object? = some object) : ¬∃ items, event = .init items := by
  rintro ⟨items, rfl⟩
  cases hobject

/-- An event that does not end the burst is followed within the window, if at all. -/
theorem le_of_not_endsBurst {window : Nat} {event : Timed WatchEvent}
    {next : Option (Timed WatchEvent)} (hopen : ¬EndsBurst window event next) :
    ∀ following ∈ next, following.time ≤ event.time + window := by
  intro following hfollowing
  apply Nat.le_of_not_gt
  intro hlate
  exact hopen (Or.inr fun other hother => Option.mem_unique hother hfollowing ▸ hlate)

theorem payloads_of_object {event : WatchEvent} {object : Json}
    (hobject : event.object? = some object) : event.payloads = [object] := by
  cases event <;> simp_all [WatchEvent.object?, WatchEvent.payloads]

theorem burstTime_of_object {event : Timed WatchEvent} {object : Json}
    (hobject : event.value.object? = some object) (window : Nat) (closing : Option Nat) :
    burstTime window closing event = untilEnd closing (event.time + window) := by
  unfold burstTime
  cases hvalue : event.value with
  | init items => rw [hvalue] at hobject; cases hobject
  | added | modified | deleted => rfl

namespace Pump

open Timed

variable {kind : Kind} {env : String} {window now : Nat} {events : List (Timed WatchEvent)}
  {closing : Option Nat} {writes : List (Timed Write)}

/-- A pump whose gate is past the first snapshot writes each event when it arrives. -/
theorem course_passed {gate : InitGate} (hphase : gate.phase ≠ .buffering)
    (hcourse : (watch ⟨kind, env, gate⟩).Course now events closing writes) :
    writes = passedOn kind env events := by
  have hnone : (watch ⟨kind, env, gate⟩).deadline = none := by
    cases hgate : gate.phase <;> simp_all [deadline, InitGate.deadline]
  induction events generalizing gate now writes with
  | nil =>
      cases hcourse with
      | quiet => rfl
      | ended => simp [step_watch, InitGate.feed, InitGate.flush_of_passed hphase, stamp, passedOn]
      | due hdeadline => simp [hnone] at hdeadline
  | cons event rest ih =>
      cases hcourse with
      | due hdeadline => simp [hnone] at hdeadline
      | event _ _ hrest =>
          rw [step_watch, InitGate.feed, InitGate.offer_of_passed hphase] at hrest ⊢
          rw [ih (by simp) hrest (by simp [deadline, InitGate.deadline])]
          rfl

/-- The pump of a stream while its gate collects. -/
def collecting (kind : Kind) (env : String) (window : Nat) (items : List Json)
    (deadline : Option Nat) : Pump :=
  watch ⟨kind, env, ⟨.buffering, ⟨items, deadline, window⟩⟩⟩

/-- What is collected is written at the deadline, or at the end of the stream if that comes
first, where no event comes before. -/
theorem course_quiet {items : List Json} (hitems : items ≠ []) {due : Nat}
    (hevents : ∀ event ∈ events.head?, due < event.time)
    (hcourse : (collecting kind env window items (some due)).Course now events closing writes) :
    writes = ⟨untilEnd closing due, .apply kind env (.init items)⟩ :: passedOn kind env events := by
  have hflush : (InitGate.mk .buffering ⟨items, some due, window⟩).flush =
      (⟨.flushed, .new window⟩, some (.init items)) := by
    rw [InitGate.flush_of_items rfl hitems]
    simp [InitGate.release, Burst.emptied]
  cases hcourse with
  | quiet hdeadline => cases hdeadline
  | @ended _ _ ending _ hdeadline =>
      rw [untilEnd_eq_ending (hdeadline due rfl), collecting, step_watch, InitGate.feed, hflush]
      rfl
  | @due _ _ time _ _ _ hdeadline _ _ hclosing hrest =>
      obtain rfl : due = time := Option.some.inj hdeadline
      rw [collecting, step_watch, InitGate.feed, hflush] at hrest ⊢
      rw [course_passed (by simp) hrest, untilEnd_eq_time hclosing]
      rfl
  | event _ hdeadline => exact absurd (hdeadline due rfl) (Nat.not_le_of_gt (hevents _ rfl))

/-- An event that comes before the deadline is the next thing to happen. -/
theorem course_joined {pump : Pump} {event : Timed WatchEvent} {rest : List (Timed WatchEvent)}
    (hcourse : pump.Course now (event :: rest) closing writes)
    (hjoins : ∀ due ∈ pump.deadline, event.time < due) :
    ∃ later, (pump.step (.event event.value event.time)).1.Course event.time rest closing later ∧
      writes = stamp event.time (pump.step (.event event.value event.time)).2 ++ later := by
  cases hcourse with
  | due hdeadline _ hevents =>
      exact absurd (hevents event rfl) (Nat.not_le_of_gt (hjoins _ hdeadline))
  | event _ _ hrest => exact ⟨_, hrest, rfl⟩

/-- A snapshot lets out what was collected, with its own items behind. -/
theorem course_snapshot {items : List Json} {deadline : Option Nat} {event : Timed WatchEvent}
    {rest : List (Timed WatchEvent)} (hjoins : ∀ due ∈ deadline, event.time < due)
    {snapshot : List Json} (hvalue : event.value = .init snapshot)
    (hcourse : (collecting kind env window items deadline).Course now (event :: rest) closing
      writes) :
    writes = ⟨event.time, .apply kind env (.init (items ++ snapshot))⟩ ::
      passedOn kind env rest := by
  obtain ⟨later, hrest, rfl⟩ := course_joined hcourse hjoins
  have hstep : (collecting kind env window items deadline).step (.event event.value event.time) =
      (watch ⟨kind, env, ⟨.flushed, .new window⟩⟩,
        [.apply kind env (.init (items ++ snapshot))]) := by
    rw [hvalue]
    rfl
  rw [hstep] at hrest ⊢
  rw [course_passed (by simp) hrest]
  rfl

/-- A change of one object joins the collection and puts the deadline a window later. -/
theorem course_object {items : List Json} {deadline : Option Nat} {event : Timed WatchEvent}
    {rest : List (Timed WatchEvent)} (hjoins : ∀ due ∈ deadline, event.time < due) {object : Json}
    (hobject : event.value.object? = some object)
    (hcourse : (collecting kind env window items deadline).Course now (event :: rest) closing
      writes) :
    (collecting kind env window (items ++ [object]) (some (event.time + window))).Course
      event.time rest closing writes := by
  obtain ⟨later, hrest, rfl⟩ := course_joined hcourse hjoins
  have hstep : (collecting kind env window items deadline).step (.event event.value event.time) =
      (collecting kind env window (items ++ [object]) (some (event.time + window)), []) := by
    rw [collecting, step_watch, InitGate.feed, InitGate.offer_of_object rfl hobject]
    rfl
  rw [hstep] at hrest ⊢
  exact hrest

/-- A gate that collects goes on until the opening burst is over, and then everything that it
holds is written at once. -/
theorem course_collecting {index : Nat} {last : Timed WatchEvent}
    (hlast : events[index]? = some last) (hends : EndsBurst window last events[index + 1]?)
    (hfirst : ∀ earlier < index, ∀ event ∈ events[earlier]?,
      ¬EndsBurst window event events[earlier + 1]?)
    (hgaps : events.IsChain fun event next => next.time ≠ event.time + window)
    {items : List Json} {deadline : Option Nat}
    (hjoins : ∀ due ∈ deadline, ∀ event ∈ events.head?, event.time < due)
    (hcourse : (collecting kind env window items deadline).Course now events closing writes) :
    writes =
      ⟨burstTime window closing last, .apply kind env
        (.init (items ++ (events.take (index + 1)).flatMap fun event => event.value.payloads))⟩ ::
      passedOn kind env (events.drop (index + 1)) := by
  -- The induction is on the events still to come of the burst. None of them comes after the
  -- deadline, so nothing is written before the last one.
  induction index generalizing events items deadline now writes with
  | zero =>
      cases events with
      | nil => cases hlast
      | cons first rest =>
          obtain rfl : first = last := Option.some.inj hlast
          have hbefore : ∀ due ∈ deadline, first.time < due :=
            fun due hdue => hjoins due hdue first rfl
          cases hobject : first.value.object? with
          | none =>
              obtain ⟨snapshot, hvalue⟩ := WatchEvent.exists_init hobject
              rw [course_snapshot hbefore hvalue hcourse]
              simp [burstTime, hvalue, WatchEvent.payloads]
          | some object =>
              have hquiet : ∀ event ∈ rest.head?, first.time + window < event.time := by
                have hnext := hends.resolve_left (not_init_of_object hobject)
                simpa [List.head?_eq_getElem?] using hnext
              rw [course_quiet (by simp) hquiet (course_object hbefore hobject hcourse),
                burstTime_of_object hobject]
              simp [payloads_of_object hobject]
  | succ index ih =>
      cases events with
      | nil => cases hlast
      | cons first rest =>
          have hbefore : ∀ due ∈ deadline, first.time < due :=
            fun due hdue => hjoins due hdue first rfl
          have hopen := hfirst 0 (Nat.succ_pos index) first rfl
          cases hobject : first.value.object? with
          | none => exact absurd (Or.inl (WatchEvent.exists_init hobject)) hopen
          | some object =>
              obtain ⟨hgap, hrestGaps⟩ := List.isChain_cons.mp hgaps
              have hnext : ∀ due ∈ some (first.time + window), ∀ event ∈ rest.head?,
                  event.time < due := by
                intro due hdue event hevent
                rw [← Option.some.inj hdue]
                have hsoon := le_of_not_endsBurst hopen event (List.head?_eq_getElem? ▸ hevent)
                exact Nat.lt_of_le_of_ne hsoon (hgap event hevent)
              have hrest := ih hlast hends
                (fun earlier hearlier => hfirst (earlier + 1) (Nat.succ_lt_succ hearlier))
                hrestGaps hnext (course_object hbefore hobject hcourse)
              rw [hrest, List.take_succ_cons, List.flatMap_cons, payloads_of_object hobject,
                List.append_assoc]
              rfl

/-- The first event that is a snapshot, or that no other one follows within the window, ends
the opening burst. Nothing is written before, the payloads of the burst are written once and
in order as one snapshot, and each later event is one write when it arrives. The burst is
written with the snapshot that ends it, and else a window after its last event or when the
stream ends, if that comes first. -/
theorem opening_burst_written_once (kind : Kind) (env : String) (hordered : InOrder events closing)
    (hgaps : events.IsChain fun event next => next.time ≠ event.time + window) {index : Nat}
    {last : Timed WatchEvent} (hlast : events[index]? = some last)
    (hends : EndsBurst window last events[index + 1]?)
    (hfirst : ∀ earlier < index, ∀ event ∈ events[earlier]?,
      ¬EndsBurst window event events[earlier + 1]?)
    (writes : List (Timed Write)) :
    ((watch (.new kind env window)).Course 0 events closing writes ↔
      writes =
        ⟨burstTime window closing last, .apply kind env
          (.init ((events.take (index + 1)).flatMap fun event => event.value.payloads))⟩ ::
        passedOn kind env (events.drop (index + 1))) ∧
    ((watch (.new kind env window)).Course 0 events closing writes → ∀ world : World,
      (world.commitAll (writes.map Timed.value)).epoch =
        world.epoch + 1 + (events.length - (index + 1))) := by
  have honly {others : List (Timed Write)}
      (hcourse : (watch (.new kind env window)).Course 0 events closing others) :=
    course_collecting hlast hends hfirst hgaps (by simp) hcourse
  refine ⟨⟨honly, ?_⟩, ?_⟩
  · rintro rfl
    obtain ⟨others, hothers⟩ := exists_course hordered (onTime_watch_new kind env window)
      (fun _ _ => Nat.zero_le _) (fun _ _ => Nat.zero_le _)
    exact honly hothers ▸ hothers
  · intro hcourse world
    rw [World.epoch_commitAll, honly hcourse]
    simp only [passedOn, List.length_map, List.length_cons, List.length_drop]
    omega

/-- Two changes in a burst, a deletion a long time later and then a snapshot. -/
def burstAndMore : List (Timed WatchEvent) :=
  [⟨10, .added (nameOnly "a")⟩, ⟨160, .deleted (nameOnly "b")⟩, ⟨900, .deleted (nameOnly "a")⟩,
    ⟨900, .init [nameOnly "c"]⟩]

/-- The two changes are one write a window after the second, and the other events are written
when they arrive. A stream that ends within the window has its burst written at its end. -/
theorem opening_burst_written_once_burstAndMore :
    InOrder burstAndMore none ∧
      (burstAndMore.IsChain fun event next => next.time ≠ event.time + 200) ∧
      (∀ writes, (watch (.new .pod "prod" 200)).Course 0 burstAndMore none writes ↔
        writes = [⟨360, .apply .pod "prod" (.init [nameOnly "a", nameOnly "b"])⟩,
          ⟨900, .apply .pod "prod" (.deleted (nameOnly "a"))⟩,
          ⟨900, .apply .pod "prod" (.init [nameOnly "c"])⟩]) ∧
      ∀ writes, (watch (.new .pod "prod" 200)).Course 0 (burstAndMore.take 2) (some 250) writes ↔
        writes = [⟨250, .apply .pod "prod" (.init [nameOnly "a", nameOnly "b"])⟩] := by
  have hordered : InOrder burstAndMore none := by simp [InOrder, burstAndMore]
  have hgaps : burstAndMore.IsChain fun event next => next.time ≠ event.time + 200 := by
    simp [burstAndMore]
  have hlast : burstAndMore[1]? = some ⟨160, .deleted (nameOnly "b")⟩ := rfl
  have hends : EndsBurst 200 ⟨160, .deleted (nameOnly "b")⟩ burstAndMore[2]? := by
    simp [EndsBurst, burstAndMore]
  have hfirst : ∀ earlier < 1, ∀ event ∈ burstAndMore[earlier]?,
      ¬EndsBurst 200 event burstAndMore[earlier + 1]? := by
    simp [EndsBurst, burstAndMore]
  have hcut : InOrder (burstAndMore.take 2) (some 250) := by simp [InOrder, burstAndMore]
  have hcutFirst : ∀ earlier < 1, ∀ event ∈ (burstAndMore.take 2)[earlier]?,
      ¬EndsBurst 200 event (burstAndMore.take 2)[earlier + 1]? := by
    simp [EndsBurst, burstAndMore]
  refine ⟨hordered, hgaps, fun writes => ?_, fun writes => ?_⟩
  · exact (opening_burst_written_once .pod "prod" hordered hgaps hlast hends hfirst writes).1
  · exact (opening_burst_written_once .pod "prod" hcut (hgaps.take 2) hlast
      (Or.inr fun _ hnone => absurd hnone (Option.not_mem_none _)) hcutFirst writes).1

end Pump

end ResourceWatch
