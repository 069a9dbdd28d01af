import ResourceWatch.Proofs.GatedReplay

/-! # Pumps on a clock

What a pump writes depends on when things reach it: its events, the deadline that it set
itself, and the end of its stream. A course is one way in which this can go, with the time of
each write. Time does not run back, nothing happens later than it is due, and of two things
that fall on one moment either may come first. For events in the order of their times there
always is a course.
-/

namespace ResourceWatch

/-- Something that happens at a time, in milliseconds. -/
structure Timed (α : Type) where
  time : Nat
  value : α

/-- Values that all happen at one time. -/
def Timed.stamp {α : Type} (time : Nat) (values : List α) : List (Timed α) :=
  values.map fun value => ⟨time, value⟩

/-- A time, or the moment at which a stream ends if that comes first. -/
def untilEnd (closing : Option Nat) (time : Nat) : Nat :=
  match closing with
  | some ending => min time ending
  | none => time

theorem untilEnd_eq_time {closing : Option Nat} {time : Nat}
    (hclosing : ∀ ending ∈ closing, time ≤ ending) : untilEnd closing time = time := by
  cases closing with
  | none => rfl
  | some ending => exact Nat.min_eq_left (hclosing ending rfl)

theorem untilEnd_eq_ending {ending time : Nat} (hending : ending ≤ time) :
    untilEnd (some ending) time = ending := Nat.min_eq_right hending

/-- Whether events come in the order of their times and the end of their stream, if it has
one, after them. -/
def InOrder (events : List (Timed WatchEvent)) (closing : Option Nat) : Prop :=
  (events.map Timed.time ++ closing.toList).Pairwise (· ≤ ·)

namespace Pump

open Timed

/-- The writes of a pump from a moment on, with their times. Events reach it, and its stream
ends at some moment or stays open, in which case the pump is followed until it waits for
nothing but events. -/
inductive Course : Pump → Nat → List (Timed WatchEvent) → Option Nat → List (Timed Write) → Prop
    where
  | quiet {pump : Pump} {now : Nat} (hdeadline : pump.deadline = none) :
      Course pump now [] none []
  | ended {pump : Pump} {now ending : Nat} (hnow : now ≤ ending)
      (hdeadline : ∀ due ∈ pump.deadline, ending ≤ due) :
      Course pump now [] (some ending) (stamp ending (pump.step .ended).2)
  | due {pump : Pump} {now due : Nat} {events : List (Timed WatchEvent)} {closing : Option Nat}
      {writes : List (Timed Write)} (hdeadline : pump.deadline = some due) (hnow : now ≤ due)
      (hevents : ∀ event ∈ events.head?, due ≤ event.time)
      (hclosing : ∀ ending ∈ closing, due ≤ ending)
      (hrest : Course (pump.step .due).1 due events closing writes) :
      Course pump now events closing (stamp due (pump.step .due).2 ++ writes)
  | event {pump : Pump} {now : Nat} {event : Timed WatchEvent} {rest : List (Timed WatchEvent)}
      {closing : Option Nat} {writes : List (Timed Write)} (hnow : now ≤ event.time)
      (hdeadline : ∀ due ∈ pump.deadline, event.time ≤ due)
      (hrest : Course (pump.step (.event event.value event.time)).1 event.time rest closing
        writes) :
      Course pump now (event :: rest) closing
        (stamp event.time (pump.step (.event event.value event.time)).2 ++ writes)

theorem step_watch (kind : Kind) (env : String) (gate : InitGate) (input : PumpInput) :
    (watch ⟨kind, env, gate⟩).step input =
      (watch ⟨kind, env, (gate.feed input).1⟩,
        (gate.feed input).2.toList.map (.apply kind env)) := by
  cases input <;> rfl

/-- Whether the collection in a pump has a deadline exactly while it holds something. -/
def Armed : Pump → Prop
  | watch pump => pump.gate.initial.Armed
  | log pump => pump.batch.Armed

/-- Whether a pump is armed and not overdue. -/
structure OnTime (pump : Pump) (now : Nat) : Prop where
  armed : pump.Armed
  notOverdue : ∀ due ∈ pump.deadline, now ≤ due

theorem onTime_watch_new (kind : Kind) (env : String) (window : Nat) :
    (watch (.new kind env window)).OnTime 0 :=
  ⟨Burst.armed_new window, fun _ _ => Nat.zero_le _⟩

/-- An event leaves the deadline as it is or puts it a window later. -/
theorem OnTime.event {pump : Pump} {now : Nat} (honTime : pump.OnTime now) (event : WatchEvent)
    {time : Nat} (hdeadline : ∀ due ∈ pump.deadline, time ≤ due) :
    (pump.step (.event event time)).1.OnTime time := by
  obtain ⟨harmed, -⟩ := honTime
  cases pump with
  | watch pump =>
      obtain ⟨kind, env, gate⟩ := pump
      rw [step_watch]
      by_cases hphase : gate.phase = .buffering
      · cases hobject : event.object? with
        | none =>
            obtain ⟨items, rfl⟩ := WatchEvent.exists_init hobject
            simp only [InitGate.feed, InitGate.offer, hphase]
            exact ⟨Burst.armed_new _, by simp [deadline, InitGate.deadline, InitGate.release]⟩
        | some object =>
            simp only [InitGate.feed, InitGate.offer_of_object hphase hobject]
            refine ⟨Burst.armed_push _ _ _, ?_⟩
            simp [deadline, InitGate.deadline, hphase, Burst.push]
      · simp only [InitGate.feed, InitGate.offer_of_passed hphase]
        exact ⟨harmed, by simp [deadline, InitGate.deadline]⟩
  | log pump =>
      cases hchange : LogEvent.ofWatch? event with
      | none =>
          simp only [step, LogPump.step, hchange, Prod.map_fst]
          exact ⟨harmed, hdeadline⟩
      | some change =>
          simp only [step, LogPump.step, hchange, Prod.map_fst]
          exact ⟨Burst.armed_push _ _ _, by simp [deadline, Burst.push]⟩

/-- A deadline that comes is followed by none. -/
theorem deadline_step_due {pump : Pump} (harmed : pump.Armed) (hdue : pump.deadline.isSome) :
    (pump.step .due).1.Armed ∧ (pump.step .due).1.deadline = none := by
  cases pump with
  | watch pump =>
      obtain ⟨kind, env, gate⟩ := pump
      have hphase : gate.phase = .buffering := by
        cases hphase : gate.phase <;> simp_all [deadline, InitGate.deadline]
      have hitems : gate.initial.items ≠ [] := by
        apply harmed.mp
        simpa [deadline, InitGate.deadline, hphase] using hdue
      rw [step_watch, InitGate.feed, InitGate.flush_of_items hphase hitems]
      exact ⟨Burst.armed_new _, rfl⟩
  | log pump =>
      have hitems : pump.batch.items ≠ [] := harmed.mp hdue
      have hflush : pump.flush.1 = { pump with batch := pump.batch.emptied } := by
        simp [LogPump.flush, Burst.isEmpty, hitems]
      simp only [step, LogPump.step, Prod.map_fst, hflush]
      exact ⟨Burst.armed_new _, rfl⟩

theorem OnTime.due {pump : Pump} {now : Nat} (honTime : pump.OnTime now)
    (hdue : pump.deadline.isSome) (time : Nat) : (pump.step .due).1.OnTime time := by
  obtain ⟨harmed, hnone⟩ := deadline_step_due honTime.armed hdue
  exact ⟨harmed, by simp [hnone]⟩

/-! ## Courses -/

/-- A pump can be followed to the time of what comes next to it, if it can from there. Its
deadline may come before, and is then followed by none. -/
theorem exists_course_of_next {pump : Pump} {now : Nat} (honTime : pump.OnTime now)
    {events : List (Timed WatchEvent)} {closing : Option Nat} {time : Nat} (hnow : now ≤ time)
    (hevents : ∀ event ∈ events.head?, event.time = time)
    (hclosing : ∀ ending ∈ closing, time ≤ ending)
    (hnext : ∀ next : Pump, ∀ start, start ≤ time → next.OnTime start →
      (∀ due ∈ next.deadline, time ≤ due) → ∃ writes, next.Course start events closing writes) :
    ∃ writes, pump.Course now events closing writes := by
  cases hdeadline : pump.deadline with
  | none => exact hnext pump now hnow honTime (by simp [hdeadline])
  | some due =>
      by_cases hlate : time ≤ due
      · exact hnext pump now hnow honTime (by simpa [hdeadline] using hlate)
      · have hdue : due ≤ time := Nat.le_of_not_le hlate
        have hsome : pump.deadline.isSome := by rw [hdeadline]; rfl
        have hnone := (deadline_step_due honTime.armed hsome).2
        obtain ⟨writes, hrest⟩ := hnext _ due hdue (honTime.due hsome due) (by simp [hnone])
        exact ⟨_, .due hdeadline (honTime.notOverdue due hdeadline)
          (fun event hevent => hevents event hevent ▸ hdue)
          (fun ending hending => Nat.le_trans hdue (hclosing ending hending)) hrest⟩

/-- Events in order have a course, be the stream open or not. -/
theorem exists_course {events : List (Timed WatchEvent)} {closing : Option Nat}
    (hordered : InOrder events closing) {pump : Pump} {now : Nat} (honTime : pump.OnTime now)
    (hevents : ∀ event ∈ events, now ≤ event.time) (hclosing : ∀ ending ∈ closing, now ≤ ending) :
    ∃ writes, pump.Course now events closing writes := by
  induction events generalizing pump now with
  | nil =>
      cases closing with
      | none =>
          cases hdeadline : pump.deadline with
          | none => exact ⟨_, .quiet hdeadline⟩
          | some due =>
              have hsome : pump.deadline.isSome := by rw [hdeadline]; rfl
              have hquiet : (pump.step .due).1.Course due [] none [] :=
                .quiet (deadline_step_due honTime.armed hsome).2
              have hnow := honTime.notOverdue due hdeadline
              exact ⟨_, .due hdeadline hnow (by simp) (by simp) hquiet⟩
      | some ending =>
          apply exists_course_of_next honTime (hclosing ending rfl) (by simp) (by simp)
          intro next start hstart _ hdeadline
          exact ⟨_, .ended hstart hdeadline⟩
  | cons event rest ih =>
      obtain ⟨hfirst, hrest⟩ := List.pairwise_cons.mp hordered
      apply exists_course_of_next honTime (hevents event List.mem_cons_self) (by simp)
      · intro ending hending
        exact hfirst ending (List.mem_append_right _ (by simpa using hending))
      · intro next start hstart hnext hdeadline
        obtain ⟨writes, hcourse⟩ := ih hrest (hnext.event event.value hdeadline)
          (fun later hlater => hfirst _ (List.mem_append_left _ (List.mem_map_of_mem hlater)))
          (fun ending hending => hfirst ending (List.mem_append_right _ (by simpa using hending)))
        exact ⟨_, .event hstart hdeadline hcourse⟩

end Pump

end ResourceWatch
