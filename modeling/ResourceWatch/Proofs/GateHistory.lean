import Mathlib.Data.List.Induction
import ResourceWatch.Proofs.GatedReplay

/-! # The history of a gate

A new gate is offered events at any times and flushed now and then, also where it has nothing
to give or is past its first snapshot. What it holds and when that is due, what it has let
out and in which phase it is can all be read off these inputs: up to the first snapshot it is
a collection of everything offered, and from then on it gives back what it gets.
-/

namespace ResourceWatch

/-- The time of an offer. -/
def PumpInput.time? : PumpInput → Option Nat
  | .event _ now => some now
  | .due | .ended => none

namespace Trace

/-- The time of the last offer among some inputs. -/
def lastOffer? (inputs : List PumpInput) : Option Nat :=
  (inputs.filterMap PumpInput.time?).getLast?

theorem received_append (inputs later : List PumpInput) :
    received (inputs ++ later) = received inputs ++ received later :=
  List.filterMap_append

end Trace

/-- Whether one input can take a gate from a phase to another. -/
inductive GatePhase.Step : GatePhase → GatePhase → Prop
  | stay (phase : GatePhase) : Step phase phase
  | flush : Step .buffering .flushed
  | stream : Step .flushed .streaming

namespace InitGate

open Trace

/-- What a new gate becomes with some inputs. -/
def after (window : Nat) (inputs : List PumpInput) : InitGate := ((new window).run inputs).1

/-- What a new gate lets out over some inputs. -/
def emitted (window : Nat) (inputs : List PumpInput) : List WatchEvent :=
  ((new window).run inputs).2

/-- What a gate gives for an input that comes after some others. -/
def answer (window : Nat) (before : List PumpInput) (input : PumpInput) : Option WatchEvent :=
  ((after window before).feed input).2

/-- Whether an input is the first for which a gate gives something. -/
def Opens (window : Nat) (before : List PumpInput) (input : PumpInput) (opening : WatchEvent) :
    Prop :=
  emitted window before = [] ∧ answer window before input = some opening

/-- The gate that has collected everything offered so far. -/
def collecting (window : Nat) (inputs : List PumpInput) : InitGate :=
  ⟨.buffering, (received inputs).flatMap WatchEvent.payloads,
    (lastOffer? inputs).map (· + window), window⟩

theorem run_append (gate : InitGate) (inputs later : List PumpInput) :
    gate.run (inputs ++ later) =
      (((gate.run inputs).1.run later).1,
        (gate.run inputs).2 ++ ((gate.run inputs).1.run later).2) := by
  induction inputs generalizing gate with
  | nil => rfl
  | cons input rest ih =>
      rw [List.cons_append, run, run]
      simp only [ih, List.append_assoc]

variable {window : Nat}

theorem after_append_singleton (inputs : List PumpInput) (input : PumpInput) :
    after window (inputs ++ [input]) = ((after window inputs).feed input).1 := by
  rw [after, run_append]
  rfl

theorem emitted_append_cons (before : List PumpInput) (input : PumpInput)
    (later : List PumpInput) :
    emitted window (before ++ input :: later) =
      emitted window before ++ (answer window before input).toList ++
        ((after window (before ++ [input])).run later).2 := by
  rw [after_append_singleton, emitted, run_append, List.append_assoc]
  rfl

/-! ## Past the first snapshot -/

theorem answer_of_passed {before : List PumpInput}
    (hphase : (after window before).phase ≠ .buffering) (input : PumpInput) :
    answer window before input = input.event? := by
  cases input with
  | event event now => exact congrArg Prod.snd (offer_of_passed hphase event now)
  | due => exact congrArg Prod.snd (flush_of_passed hphase)
  | ended => exact congrArg Prod.snd (flush_of_passed hphase)

theorem deadline_of_passed {gate : InitGate} (hphase : gate.phase ≠ .buffering) :
    gate.deadline = none := by
  unfold deadline
  cases hgate : gate.phase with
  | buffering => exact absurd hgate hphase
  | flushed => rfl
  | streaming => rfl

/-- The next offer takes a gate to its last phase, in which it stays. -/
theorem fst_run_of_passed {gate : InitGate} (hphase : gate.phase ≠ .buffering)
    (inputs : List PumpInput) :
    (gate.run inputs).1 =
      ⟨if received inputs = [] then gate.phase else .streaming, gate.initial⟩ := by
  induction inputs generalizing gate with
  | nil => rfl
  | cons input rest ih =>
      cases input with
      | event event now =>
          have hstreaming : (InitGate.mk .streaming gate.initial).phase ≠ .buffering := by simp
          simp only [run, feed, offer_of_passed hphase, ih hstreaming, ite_self]
          rw [if_neg (by simp [received, PumpInput.event?])]
      | due =>
          simp only [run, feed, flush_of_passed hphase]
          exact ih hphase
      | ended =>
          simp only [run, feed, flush_of_passed hphase]
          exact ih hphase

/-! ## Up to the first snapshot -/

/-- A flush adds nothing to what is collected. -/
theorem collecting_append_flush (window : Nat) (inputs : List PumpInput) {input : PumpInput}
    (hevent : input.event? = none) :
    collecting window (inputs ++ [input]) = collecting window inputs := by
  have htime : input.time? = none := by cases input <;> simp_all [PumpInput.event?, PumpInput.time?]
  simp [collecting, lastOffer?, received, hevent, htime]

theorem feed_of_flush {input : PumpInput} (hevent : input.event? = none) (gate : InitGate) :
    gate.feed input = gate.flush := by
  cases input <;> simp_all [PumpInput.event?, feed]

/-- A gate that has collected everything either collects one more input or lets everything out
in one snapshot. The latter takes a flush or a snapshot. -/
theorem feed_collecting {inputs : List PumpInput}
    (harmed : (collecting window inputs).initial.Armed) (input : PumpInput) :
    ((collecting window inputs).feed input = (collecting window (inputs ++ [input]), none) ∧
        (collecting window (inputs ++ [input])).initial.Armed) ∨
      (collecting window inputs).feed input =
          (⟨.flushed, .new window⟩,
            some (.init ((received (inputs ++ [input])).flatMap WatchEvent.payloads))) ∧
        (input.event? = none ∨ ∃ items, input.event? = some (.init items)) := by
  cases hevent : input.event? with
  | none =>
      have hsame := collecting_append_flush window inputs hevent
      rw [feed_of_flush hevent, hsame]
      by_cases hitems : (collecting window inputs).initial.items = []
      · exact .inl ⟨flush_of_no_items hitems, harmed⟩
      · right
        rw [flush_of_items rfl hitems]
        refine ⟨?_, .inl rfl⟩
        simp [release, collecting, Burst.emptied, received, hevent]
  | some event =>
      obtain ⟨now, rfl⟩ : ∃ now, input = .event event now := by
        cases input <;> simp_all [PumpInput.event?]
      cases hobject : event.object? with
      | none =>
          obtain ⟨items, rfl⟩ := WatchEvent.exists_init hobject
          right
          refine ⟨?_, .inr ⟨items, rfl⟩⟩
          simp [feed, offer, collecting, release, Burst.emptied, received, PumpInput.event?,
            WatchEvent.payloads]
      | some object =>
          have hpayloads : event.payloads = [object] := by
            cases event <;> simp_all [WatchEvent.object?, WatchEvent.payloads]
          have hpush : collecting window (inputs ++ [.event event now]) =
              ⟨.buffering, (collecting window inputs).initial.push object now⟩ := by
            simp [collecting, Burst.push, received, lastOffer?, PumpInput.event?,
              PumpInput.time?, hpayloads]
          left
          rw [hpush, feed, offer_of_object rfl hobject]
          exact ⟨rfl, Burst.armed_push _ object now⟩

/-- Either a gate still collects everything, or there is a place at which it opened. -/
theorem collecting_or_opens (window : Nat) (inputs : List PumpInput) :
    ((new window).run inputs = (collecting window inputs, []) ∧
        (collecting window inputs).initial.Armed) ∨
      ∃ before input later opening, inputs = before ++ input :: later ∧
        Opens window before input opening := by
  induction inputs using List.reverseRecOn with
  | nil => exact .inl ⟨rfl, Burst.armed_new window⟩
  | append_singleton inputs input ih =>
      rcases ih with ⟨hrun, harmed⟩ | ⟨before, first, later, opening, rfl, hopens⟩
      · rcases feed_collecting harmed input with ⟨hfeed, hnext⟩ | ⟨hfeed, -⟩
        · left
          refine ⟨?_, hnext⟩
          rw [run_append, hrun]
          simp [run, hfeed]
        · right
          have hanswer := congrArg Prod.snd hfeed
          have hafter : after window inputs = collecting window inputs := congrArg Prod.fst hrun
          rw [← hafter] at hanswer
          exact ⟨inputs, input, [], _, rfl, congrArg Prod.snd hrun, hanswer⟩
      · right
        exact ⟨before, first, later ++ [input], opening, by simp, hopens⟩

/-! ## The first snapshot -/

variable {before : List PumpInput} {input : PumpInput} {opening : WatchEvent}

theorem Opens.emitted_ne_nil (hopens : Opens window before input opening)
    (later : List PumpInput) : emitted window (before ++ input :: later) ≠ [] := by
  rw [emitted_append_cons, hopens.1, hopens.2]
  simp

/-- What a gate first gives is a snapshot of everything offered so far. -/
theorem Opens.opening_eq (hopens : Opens window before input opening) :
    opening = .init ((received (before ++ [input])).flatMap WatchEvent.payloads) ∧
      after window (before ++ [input]) = ⟨.flushed, .new window⟩ ∧
      (input.event? = none ∨ ∃ items, input.event? = some (.init items)) := by
  obtain ⟨hbefore, hanswer⟩ := hopens
  rcases collecting_or_opens window before with
    ⟨hrun, harmed⟩ | ⟨earlier, first, rest, event, rfl, hearlier⟩
  · have hafter : after window before = collecting window before := congrArg Prod.fst hrun
    rw [answer, hafter] at hanswer
    rw [after_append_singleton, hafter]
    rcases feed_collecting harmed input with ⟨hfeed, -⟩ | ⟨hfeed, hcause⟩
    · rw [hfeed] at hanswer
      cases hanswer
    · rw [hfeed] at hanswer ⊢
      exact ⟨(Option.some.inj hanswer).symm, rfl, hcause⟩
  · exact absurd hbefore (hearlier.emitted_ne_nil rest)

/-- From its first snapshot on a gate gives back what it gets. -/
theorem Opens.run_eq (hopens : Opens window before input opening) (later : List PumpInput) :
    after window (before ++ input :: later) =
        ⟨if received later = [] then .flushed else .streaming, .new window⟩ ∧
      emitted window (before ++ input :: later) = opening :: received later := by
  have hafter := hopens.opening_eq.2.1
  have hpassed : (after window (before ++ [input])).phase ≠ .buffering := by simp [hafter]
  constructor
  · rw [after, List.append_cons, run_append]
    refine (fst_run_of_passed hpassed later).trans ?_
    rw [hafter]
  · rw [emitted_append_cons, hopens.1, hopens.2, (run_of_passed hpassed later).2]
    rfl

theorem phase_step_offer (gate : InitGate) (event : WatchEvent) (now : Nat) :
    gate.phase.Step (gate.offer event now).1.phase := by
  obtain ⟨phase, initial⟩ := gate
  cases phase with
  | buffering =>
      cases event with
      | init items => exact .flush
      | added object => exact .stay _
      | modified object => exact .stay _
      | deleted object => exact .stay _
  | flushed => exact .stream
  | streaming => exact .stay _

theorem phase_step_flush (gate : InitGate) : gate.phase.Step gate.flush.1.phase := by
  unfold flush
  split
  next hphase =>
    rw [hphase.1]
    exact .flush
  next => exact .stay _

theorem phase_step_feed (gate : InitGate) (input : PumpInput) :
    gate.phase.Step (gate.feed input).1.phase := by
  cases input with
  | event event now => exact phase_step_offer gate event now
  | due => exact phase_step_flush gate
  | ended => exact phase_step_flush gate

theorem Opens.passed (hopens : Opens window before input opening) (later : List PumpInput) :
    (after window (before ++ input :: later)).phase ≠ .buffering := by
  rw [(hopens.run_eq later).1]
  split <;> simp

theorem Opens.phase_eq_flushed_iff (hopens : Opens window before input opening)
    (later : List PumpInput) :
    (after window (before ++ input :: later)).phase = .flushed ↔ received later = [] := by
  rw [(hopens.run_eq later).1]
  split
  next hnone => simp [hnone]
  next hsome => simp [hsome]

/-! ## The whole history -/

variable (window) (inputs : List PumpInput)

theorem payloads_emitted_append_items :
    (emitted window inputs).flatMap WatchEvent.payloads ++ (after window inputs).initial.items =
      (received inputs).flatMap WatchEvent.payloads := by
  rcases collecting_or_opens window inputs with
    ⟨hrun, -⟩ | ⟨before, input, later, opening, rfl, hopens⟩
  · rw [after, emitted, hrun]
    rfl
  · obtain ⟨hafter, hemitted⟩ := hopens.run_eq later
    have hreceived : received (before ++ input :: later) =
        received (before ++ [input]) ++ received later := by
      rw [List.append_cons, received_append]
    rw [hafter, hemitted, hreceived, hopens.opening_eq.1]
    simp [WatchEvent.payloads, Burst.new]

theorem phase_eq_buffering_iff :
    (after window inputs).phase = .buffering ↔ emitted window inputs = [] := by
  rcases collecting_or_opens window inputs with
    ⟨hrun, -⟩ | ⟨before, input, later, opening, rfl, hopens⟩
  · rw [after, emitted, hrun]
    exact iff_of_true rfl rfl
  · exact iff_of_false (hopens.passed later) (hopens.emitted_ne_nil later)

theorem phase_eq_flushed_iff :
    (after window inputs).phase = .flushed ↔
      ∃ before input later opening, inputs = before ++ input :: later ∧
        Opens window before input opening ∧ received later = [] := by
  constructor
  · intro hflushed
    rcases collecting_or_opens window inputs with
      ⟨hrun, -⟩ | ⟨before, input, later, opening, rfl, hopens⟩
    · rw [after, hrun] at hflushed
      cases hflushed
    · exact ⟨before, input, later, opening, rfl, hopens,
        (hopens.phase_eq_flushed_iff later).mp hflushed⟩
  · rintro ⟨before, input, later, opening, rfl, hopens, hnone⟩
    exact (hopens.phase_eq_flushed_iff later).mpr hnone

theorem isSome_deadline_iff :
    (after window inputs).deadline.isSome ↔
      (after window inputs).phase = .buffering ∧ 0 < (after window inputs).buffered := by
  rcases collecting_or_opens window inputs with
    ⟨hrun, harmed⟩ | ⟨before, input, later, opening, rfl, hopens⟩
  · have hheld : (collecting window inputs).initial.items ≠ [] ↔
        0 < (collecting window inputs).buffered := List.length_pos_iff.symm
    rw [after, hrun, ← hheld]
    exact harmed.trans (iff_and_self.mpr fun _ => rfl)
  · rw [deadline_of_passed (hopens.passed later)]
    exact iff_of_false (by simp) fun hheld => hopens.passed later hheld.1

theorem exists_lastOffer_of_deadline :
    ∀ due ∈ (after window inputs).deadline, ∃ last ∈ lastOffer? inputs, due = last + window := by
  rcases collecting_or_opens window inputs with
    ⟨hrun, -⟩ | ⟨before, input, later, opening, rfl, hopens⟩
  · rw [after, hrun]
    intro due hdue
    obtain ⟨last, hlast, rfl⟩ := Option.map_eq_some_iff.mp hdue
    exact ⟨last, hlast, rfl⟩
  · rw [deadline_of_passed (hopens.passed later)]
    simp

/-- What holds of a new gate after some inputs, and of each of these inputs. -/
structure FollowsInputs (window : Nat) (inputs : List PumpInput) : Prop where
  /-- No payload is lost, doubled or moved. -/
  payloads_eq : (emitted window inputs).flatMap WatchEvent.payloads ++
    (after window inputs).initial.items = (received inputs).flatMap WatchEvent.payloads
  /-- First comes a snapshot, which takes a flush or the offer of a snapshot. -/
  opening : ∀ {before input later opening}, inputs = before ++ input :: later →
    Opens window before input opening →
      (∃ items, opening = .init items) ∧
        (input.event? = none ∨ ∃ items, input.event? = some (.init items))
  /-- From then on an offer gives its event and a flush nothing. -/
  answers : ∀ {before input between next rest opening},
    inputs = before ++ input :: (between ++ next :: rest) →
    Opens window before input opening →
      answer window (before ++ input :: between) next = next.event?
  phase_step : ∀ {before input later}, inputs = before ++ input :: later →
    (after window before).phase.Step (after window (before ++ [input])).phase
  buffering_iff : (after window inputs).phase = .buffering ↔ emitted window inputs = []
  /-- A gate is flushed from the first event that it gives until the next offer. -/
  flushed_iff : (after window inputs).phase = .flushed ↔
    ∃ before input later opening, inputs = before ++ input :: later ∧
      Opens window before input opening ∧ received later = []
  deadline_iff : (after window inputs).deadline.isSome ↔
    (after window inputs).phase = .buffering ∧ 0 < (after window inputs).buffered
  deadline_eq : ∀ due ∈ (after window inputs).deadline,
    ∃ last ∈ lastOffer? inputs, due = last + window

theorem followsInputs : FollowsInputs window inputs where
  payloads_eq := payloads_emitted_append_items window inputs
  opening := by
    intro before input later opening _ hopens
    obtain ⟨heq, -, hcause⟩ := hopens.opening_eq
    exact ⟨⟨_, heq⟩, hcause⟩
  answers := by
    intro before input between next rest opening _ hopens
    exact answer_of_passed (hopens.passed between) next
  phase_step := by
    intro before input later _
    rw [after_append_singleton]
    exact phase_step_feed _ input
  buffering_iff := phase_eq_buffering_iff window inputs
  flushed_iff := phase_eq_flushed_iff window inputs
  deadline_iff := isSome_deadline_iff window inputs
  deadline_eq := exists_lastOffer_of_deadline window inputs

end InitGate

end ResourceWatch
