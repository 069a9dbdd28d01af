import Mathlib.Logic.Function.Iterate
import ResourceWatch.Proofs.StreamLife

/-! # When a stream asks

The clock of a stream under a script of answers. The stream asks when it is opened, and from
then on exactly one delay after each refusal and after the end of each connection, which is the
first fault that it reads or the end that the server makes. The delay is the same after every
outcome and there is always one more request. When the owner closes the stream, or the server
does, the requests made so far are all there are. Things happen one at a time here, so that the
owner can come in between any two of them.
-/

namespace ResourceWatch

/-! ## The times that a script asks for -/

/-- When a connection is left that ends at a time: with its first fault, or else with its
end. -/
def Delivery.leftAt (ending : Nat) : List (Nat × Delivery) → Nat
  | [] => ending
  | (_, .text _) :: rest => leftAt ending rest
  | (time, .fault _) :: _ => time

theorem Delivery.leftAt_shift (now ending : Nat) (items : List (Nat × Delivery)) :
    leftAt (now + ending) (items.map fun (time, item) => (now + time, item)) =
      now + leftAt ending items := by
  induction items with
  | nil => rfl
  | cons first rest ih =>
      obtain ⟨time, _ | _⟩ := first
      · exact ih
      · rfl

/-- A connection whose items come in their order is not left before any of them. -/
theorem Delivery.le_leftAt {time ending : Nat} {rest : List (Nat × Delivery)}
    (hsorted : (time :: rest.map Prod.fst ++ [ending]).Pairwise (· ≤ ·)) (item : Delivery) :
    time ≤ leftAt ending ((time, item) :: rest) := by
  induction rest generalizing time item with
  | nil =>
      cases item with
      | text text => simpa [leftAt] using hsorted
      | fault reason => exact Nat.le_refl _
  | cons first rest ih =>
      obtain ⟨next, item'⟩ := first
      obtain ⟨htime, hrest⟩ := List.pairwise_cons.mp hsorted
      cases item with
      | text text => exact Nat.le_trans (htime next List.mem_cons_self) (ih hrest item')
      | fault reason => exact Nat.le_refl _

namespace Outcome

def answer : Outcome → StreamInput
  | refusal => .refused
  | connection _ _ => .accepted 0

/-- How long an outcome keeps a stream that nobody closes. -/
def lasts : Outcome → Nat
  | refusal => 0
  | connection items span => Delivery.leftAt span items

/-- Whether the items of a connection come in their order and before its end. -/
def Orderly : Outcome → Prop
  | refusal => True
  | connection items span => (items.map Prod.fst ++ [span]).Pairwise (· ≤ ·)

/-- The times of a connection have no part in whether it closes the stream. -/
theorem closes_shift (now span : Nat) (items : List (Nat × Delivery)) :
    (connection (items.map fun (time, item) => (now + time, item)) (now + span)).closes =
      (connection items span).closes := by
  simp [closes, texts, Function.comp_def]

theorem closes_of_closed {text : String} (hdecode : Frame.decode text = .ok .closed)
    (time span : Nat) (rest : List (Nat × Delivery)) :
    (connection ((time, .text text) :: rest) span).closes = true := by
  simp [closes, texts, Delivery.readable, Frame.ofTexts, hdecode, Except.toOption,
    Frame.isClosed]

theorem closes_of_ne_closed {text : String} (hdecode : Frame.decode text ≠ .ok .closed)
    (time span : Nat) (rest : List (Nat × Delivery)) :
    (connection ((time, .text text) :: rest) span).closes = (connection rest span).closes := by
  simp only [closes, texts, List.map_cons, Delivery.readable, Frame.ofTexts,
    List.filterMap_cons]
  cases hframe : Frame.decode text with
  | error fault => rfl
  | ok frame =>
      cases frame with
      | closed => exact absurd hframe hdecode
      | event event => rfl

/-- How many things an outcome can let happen, with the delay behind it. -/
def weight : Outcome → Nat
  | refusal => 2
  | connection items _ => items.length + 3

def totalWeight : List Outcome → Nat
  | [] => 0
  | outcome :: rest => outcome.weight + totalWeight rest

end Outcome

/-- The times of the requests under a script, of which the first is given: each of the others
is a delay after what the request before it led to was over. -/
def attemptTimes (delay : Nat) : Nat → List Outcome → List Nat
  | time, [] => [time]
  | time, outcome :: rest => time :: attemptTimes delay (time + outcome.lasts + delay) rest

theorem length_attemptTimes (delay start : Nat) (script : List Outcome) :
    (attemptTimes delay start script).length = script.length + 1 := by
  induction script generalizing start with
  | nil => rfl
  | cons outcome rest ih => rw [attemptTimes, List.length_cons, ih, List.length_cons]

theorem head?_attemptTimes (delay start : Nat) (script : List Outcome) :
    (attemptTimes delay start script).head? = some start := by
  cases script <;> rfl

theorem attemptTimes_eq_cons (delay start : Nat) (script : List Outcome) :
    attemptTimes delay start script = start :: (attemptTimes delay start script).tail := by
  cases script <;> rfl

theorem getElem?_succ_attemptTimes (delay start : Nat) (script : List Outcome) {index : Nat}
    {outcome : Outcome} (houtcome : script[index]? = some outcome) :
    (attemptTimes delay start script)[index + 1]? =
      (attemptTimes delay start script)[index]?.map fun time =>
        time + outcome.lasts + delay := by
  induction script generalizing start index with
  | nil => cases houtcome
  | cons first rest ih =>
      cases index with
      | zero =>
          obtain rfl : first = outcome := Option.some.inj houtcome
          rw [attemptTimes, attemptTimes_eq_cons]
          rfl
      | succ index => exact ih _ houtcome

theorem le_of_mem_attemptTimes {delay start time : Nat} {script : List Outcome}
    (hmem : time ∈ attemptTimes delay start script) : start ≤ time := by
  induction script generalizing start with
  | nil => exact Nat.le_of_eq (List.mem_singleton.mp hmem).symm
  | cons outcome rest ih =>
      rcases List.mem_cons.mp hmem with rfl | hrest
      · exact Nat.le_refl _
      · have hlater := ih hrest
        omega

/-! ## A stream under a script -/

/-- A stream with the time, with what its connection will still bring and when it ends, with
the rest of a script, and with the times of the requests made so far. -/
structure ScriptedStream where
  stream : Stream
  now : Nat
  coming : List (Nat × Delivery)
  ending : Nat
  script : List Outcome
  attempts : List Nat

namespace ScriptedStream

/-- A stream as it is opened at a time, when it asks for the first time. -/
def opened (url : String) (delay start : Nat) (script : List Outcome) : ScriptedStream :=
  ⟨.new url delay, start, [], start, script, [start]⟩

variable (state : ScriptedStream)

/-- What happens next, and when: the answer to a request comes at once, a connection brings
its items and its end, and a delay is over at its time. -/
def next? : Option (Nat × StreamInput) :=
  match state.stream.stage with
  | .connecting => state.script.head?.map fun outcome => (state.now, outcome.answer)
  | .reading _ =>
    match state.coming with
    | (time, item) :: _ => some (time, item.input)
    | [] => some (state.ending, .disconnected)
  | .waiting time => some (time, .elapsed)
  | .ended => none

/-- The state without what happens next. A connection that the script grants brings its items
from now on. -/
def behindNext : ScriptedStream :=
  match state.stream.stage, state.script with
  | .connecting, .connection items span :: rest =>
    { state with
      coming := items.map fun (time, item) => (state.now + time, item)
      ending := state.now + span
      script := rest }
  | .connecting, .refusal :: rest => { state with script := rest }
  | .reading _, _ => { state with coming := state.coming.tail }
  | _, _ => state

/-- The state after the next thing has happened. A stream that comes to ask does so at once. -/
def tick : ScriptedStream :=
  match state.next? with
  | none => state
  | some (time, input) =>
    let next := (state.stream.step time input).1
    { state.behindNext with
      stream := next
      now := time
      attempts := if next.asks then state.attempts ++ [time] else state.attempts }

/-- The state after the owner closed the stream at a time, which wakes it whatever it waits
for. -/
def closeAt (time : Nat) : ScriptedStream :=
  { state with stream := (state.stream.close.step time .elapsed).1, now := time }

/-! ## What can happen -/

/-- What a tick can do to a stream that is not closed. -/
inductive Ticks : ScriptedStream → Prop
  | idle (hstage : state.stream.stage = .connecting) (hscript : state.script = []) : Ticks state
  | refused {rest : List Outcome} (hstage : state.stream.stage = .connecting)
      (hscript : state.script = .refusal :: rest) :
      Ticks { state with stream := state.stream.wait state.now, script := rest }
  | accepted {items : List (Nat × Delivery)} {span : Nat} {rest : List Outcome}
      (hstage : state.stream.stage = .connecting)
      (hscript : state.script = .connection items span :: rest) :
      Ticks { state with
        stream := { state.stream with stage := .reading 0 }
        coming := items.map fun (time, item) => (state.now + time, item)
        ending := state.now + span
        script := rest }
  | passed {connection time : Nat} {text : String} {rest : List (Nat × Delivery)}
      (hstage : state.stream.stage = .reading connection)
      (hcoming : state.coming = (time, .text text) :: rest)
      (hdecode : Frame.decode text ≠ .ok .closed) :
      Ticks { state with now := time, coming := rest }
  | closed {connection time : Nat} {text : String} {rest : List (Nat × Delivery)}
      (hstage : state.stream.stage = .reading connection)
      (hcoming : state.coming = (time, .text text) :: rest)
      (hdecode : Frame.decode text = .ok .closed) :
      Ticks { state with stream := state.stream.finished, now := time, coming := rest }
  | faulted {connection time : Nat} {reason : String} {rest : List (Nat × Delivery)}
      (hstage : state.stream.stage = .reading connection)
      (hcoming : state.coming = (time, .fault reason) :: rest) :
      Ticks { state with stream := state.stream.wait time, now := time, coming := rest }
  | disconnected {connection : Nat} (hstage : state.stream.stage = .reading connection)
      (hcoming : state.coming = []) :
      Ticks { state with stream := state.stream.wait state.ending, now := state.ending }
  | woken {time : Nat} (hstage : state.stream.stage = .waiting time) :
      Ticks { state with
        stream := { state.stream with stage := .connecting }
        now := time
        attempts := state.attempts ++ [time] }

variable {state : ScriptedStream}

theorem ticks_tick (hclosed : state.stream.closed = false)
    (hended : state.stream.stage ≠ .ended) : state.Ticks state.tick := by
  obtain ⟨⟨url, delay, closed, stage⟩, now, coming, ending, script, attempts⟩ := state
  obtain rfl : closed = false := hclosed
  cases stage with
  | connecting =>
      cases script with
      | nil => exact .idle rfl rfl
      | cons outcome rest =>
          cases outcome with
          | refusal => exact .refused rfl rfl
          | connection items span => exact .accepted rfl rfl
  | reading connection =>
      cases coming with
      | nil => exact .disconnected rfl rfl
      | cons first rest =>
          obtain ⟨time, item⟩ := first
          cases item with
          | fault reason => exact .faulted rfl rfl
          | text text =>
              -- What a text does to the stream is up to its frame, so this step does not compute.
              have htick (next : Stream) (event : Option WatchEvent)
                  (hread : Stream.readText ⟨url, delay, false, .reading connection⟩ text =
                    (next, event)) (hasks : next.asks = false) :
                  tick ⟨⟨url, delay, false, .reading connection⟩, now,
                      (time, .text text) :: rest, ending, script, attempts⟩ =
                    ⟨next, time, rest, ending, script, attempts⟩ := by
                simp [tick, next?, behindNext, Delivery.input, Stream.step, hread, hasks]
              cases hdecode : Frame.decode text with
              | error fault =>
                  rw [htick _ none (by rw [Stream.readText, hdecode]) rfl]
                  exact .passed rfl rfl (by simp [hdecode])
              | ok frame =>
                  cases frame with
                  | closed =>
                      rw [htick _ none (by rw [Stream.readText, hdecode]) rfl]
                      exact .closed rfl rfl hdecode
                  | event event =>
                      rw [htick _ (some event) (by rw [Stream.readText, hdecode]) rfl]
                      exact .passed rfl rfl (by simp [hdecode])
  | waiting time => exact .woken rfl
  | ended => exact absurd rfl hended

/-! ## A stream that is closed -/

theorem tick_of_closed (hclosed : state.stream.closed = true) :
    state.tick.stream.closed = true ∧ state.tick.attempts = state.attempts := by
  unfold tick
  split
  next => exact ⟨hclosed, rfl⟩
  next time input hnext =>
    rw [Stream.step_of_closed hclosed]
    exact ⟨hclosed, if_neg (by simp [Stream.asks])⟩

theorem attempts_iterate_of_closed (hclosed : state.stream.closed = true) (count : Nat) :
    (tick^[count] state).attempts = state.attempts := by
  induction count generalizing state with
  | zero => rfl
  | succ count ih =>
      obtain ⟨hnext, hattempts⟩ := tick_of_closed hclosed
      rw [Function.iterate_succ_apply, ih hnext, hattempts]

/-! ## A stream that keeps to its times -/

/-- The requests that are still to come under the rest of the script, if nobody closes the
stream. The request of a stream that asks is made. -/
def future (state : ScriptedStream) : List Nat :=
  match state.stream.stage with
  | .connecting => (attemptTimes state.stream.delay state.now state.script).tail
  | .reading _ =>
    attemptTimes state.stream.delay
      (Delivery.leftAt state.ending state.coming + state.stream.delay) state.script
  | .waiting time => attemptTimes state.stream.delay time state.script
  | .ended => []

/-- The times in the order in which a stream goes through them: those of its connection from
now on while it reads one, and the end of its delay while it waits. -/
def timeline (state : ScriptedStream) : List Nat :=
  match state.stream.stage with
  | .reading _ => state.now :: state.coming.map Prod.fst ++ [state.ending]
  | .waiting time => [state.now, time]
  | .connecting | .ended => [state.now]

/-- How a stream stands that nobody has closed: the requests made and those to come are the
given times, nothing lies behind the time that it is now, and the connections that the script
will grant are orderly. -/
structure Keeps (state : ScriptedStream) (times : List Nat) : Prop where
  closed_eq : state.stream.closed = false
  stage_ne : state.stream.stage ≠ .ended
  attempts_eq : state.attempts ++ state.future = times
  attempts_le : ∀ time ∈ state.attempts, time ≤ state.now
  timeline_sorted : state.timeline.Pairwise (· ≤ ·)
  orderly : ∀ outcome ∈ state.script, outcome.Orderly

theorem keeps_opened (url : String) (delay start : Nat) {script : List Outcome}
    (horderly : ∀ outcome ∈ script, outcome.Orderly) :
    (opened url delay start script).Keeps (attemptTimes delay start script) where
  closed_eq := rfl
  stage_ne := nofun
  attempts_eq := (attemptTimes_eq_cons delay start script).symm
  attempts_le _ hmem := Nat.le_of_eq (List.mem_singleton.mp hmem)
  timeline_sorted := List.pairwise_singleton _ _
  orderly := horderly

variable {times : List Nat}

/-- What a stream that reads meets next is not behind it, and from there on it goes through
the rest in its order. -/
theorem Keeps.behind (hkeeps : state.Keeps times) {connection : Nat}
    (hstage : state.stream.stage = .reading connection) {time : Nat} {item : Delivery}
    {rest : List (Nat × Delivery)} (hcoming : state.coming = (time, item) :: rest) :
    state.now ≤ time ∧ (time :: rest.map Prod.fst ++ [state.ending]).Pairwise (· ≤ ·) := by
  have hsorted := hkeeps.timeline_sorted
  simp only [timeline, hstage, hcoming, List.map_cons, List.cons_append] at hsorted
  obtain ⟨hnow, hrest⟩ := List.pairwise_cons.mp hsorted
  exact ⟨hnow time List.mem_cons_self, hrest⟩

/-- A tick keeps a stream to its times unless it closes the stream, and then it makes no
request. -/
theorem Keeps.tick (hkeeps : state.Keeps times) :
    state.tick.Keeps times ∨
      state.tick.stream.closed = true ∧ state.tick.attempts = state.attempts := by
  have hticks := ticks_tick hkeeps.closed_eq hkeeps.stage_ne
  have hbehind := @hkeeps.behind
  obtain ⟨hclosed, hended, rfl, hle, hsorted, horderly⟩ := hkeeps
  generalize state.tick = next at hticks
  cases hticks with
  | idle hstage hscript => exact .inl ⟨hclosed, hended, rfl, hle, hsorted, horderly⟩
  | refused hstage hscript =>
      rw [hscript] at horderly
      obtain ⟨-, horderly⟩ := List.forall_mem_cons.mp horderly
      refine .inl ⟨hclosed, nofun, ?_, hle, ?_, horderly⟩
      · simp [future, hstage, hscript, Stream.wait, attemptTimes, Outcome.lasts]
      · simp [timeline, Stream.wait]
  | @accepted items span rest hstage hscript =>
      rw [hscript] at horderly
      obtain ⟨hitems, horderly⟩ := List.forall_mem_cons.mp horderly
      refine .inl ⟨hclosed, nofun, ?_, hle, ?_, horderly⟩
      · simp [future, hstage, hscript, attemptTimes, Outcome.lasts, Delivery.leftAt_shift]
      · have hshifted : ((items.map Prod.fst ++ [span]).map (state.now + ·)).Pairwise (· ≤ ·) :=
          List.Pairwise.map _ (fun _ _ hle => Nat.add_le_add_left hle _) hitems
        have htimes : (items.map fun (time, item) => (state.now + time, item)).map Prod.fst ++
            [state.now + span] = (items.map Prod.fst ++ [span]).map (state.now + ·) := by
          simp [Function.comp_def]
        rw [timeline, List.cons_append, htimes]
        refine List.pairwise_cons.mpr ⟨?_, hshifted⟩
        intro time hmem
        obtain ⟨offset, -, rfl⟩ := List.mem_map.mp hmem
        exact Nat.le_add_right _ _
  | passed hstage hcoming hdecode =>
      obtain ⟨hnow, hrest⟩ := hbehind hstage hcoming
      have hpast := fun time hmem => Nat.le_trans (hle time hmem) hnow
      refine .inl ⟨hclosed, hended, ?_, hpast, ?_, horderly⟩
      · simp [future, hstage, hcoming, Delivery.leftAt]
      · simpa only [timeline, hstage] using hrest
  | closed hstage hcoming hdecode => exact .inr ⟨rfl, rfl⟩
  | faulted hstage hcoming =>
      obtain ⟨hnow, -⟩ := hbehind hstage hcoming
      have hpast := fun time hmem => Nat.le_trans (hle time hmem) hnow
      refine .inl ⟨hclosed, nofun, ?_, hpast, ?_, horderly⟩
      · simp [future, hstage, hcoming, Delivery.leftAt, Stream.wait]
      · simp [timeline, Stream.wait]
  | disconnected hstage hcoming =>
      have hnow : state.now ≤ state.ending := by
        simpa [timeline, hstage, hcoming] using hsorted
      have hpast := fun time hmem => Nat.le_trans (hle time hmem) hnow
      refine .inl ⟨hclosed, nofun, ?_, hpast, ?_, horderly⟩
      · simp [future, hstage, hcoming, Delivery.leftAt, Stream.wait]
      · simp [timeline, Stream.wait]
  | @woken time hstage =>
      have hnow : state.now ≤ time := by simpa [timeline, hstage] using hsorted
      refine .inl ⟨hclosed, nofun, ?_, ?_, List.pairwise_singleton _ _, horderly⟩
      · -- The first of the requests to come is made, and the others are still to come.
        simp only [future, hstage, List.append_assoc, List.singleton_append,
          ← attemptTimes_eq_cons]
      · intro attempt hmem
        rcases List.mem_append.mp hmem with hbefore | hnew
        · exact Nat.le_trans (hle attempt hbefore) hnow
        · exact Nat.le_of_eq (List.mem_singleton.mp hnew)

/-- Over any number of ticks a stream keeps to its times, or it is closed and has made some of
the requests in their order. -/
theorem Keeps.iterate (hkeeps : state.Keeps times) (count : Nat) :
    (ScriptedStream.tick^[count] state).Keeps times ∨
      (ScriptedStream.tick^[count] state).stream.closed = true ∧
        (ScriptedStream.tick^[count] state).attempts <+: times := by
  induction count with
  | zero => exact .inl hkeeps
  | succ count ih =>
      rw [Function.iterate_succ_apply']
      rcases ih with hbefore | ⟨hclosed, hattempts⟩
      · refine hbefore.tick.imp id ?_
        rintro ⟨hclosed, hattempts⟩
        exact ⟨hclosed, hattempts ▸ ⟨_, hbefore.attempts_eq⟩⟩
      · obtain ⟨hstill, hsame⟩ := tick_of_closed hclosed
        exact .inr ⟨hstill, hsame ▸ hattempts⟩

theorem Keeps.le_of_mem_future (hkeeps : state.Keeps times) {bound : Nat}
    (hbound : ∀ time input, state.next? = some (time, input) → bound ≤ time) {time : Nat}
    (hmem : time ∈ state.future) : bound ≤ time := by
  have hstage := hkeeps.stage_ne
  unfold next? at hbound
  unfold future at hmem
  split at hmem
  next hconnecting =>
    rw [hconnecting] at hbound
    cases hscript : state.script with
    | nil =>
        rw [hscript] at hmem
        cases hmem
    | cons outcome rest =>
        have hnow : bound ≤ state.now := hbound _ outcome.answer (by rw [hscript]; rfl)
        exact Nat.le_trans hnow (le_of_mem_attemptTimes (List.mem_of_mem_tail hmem))
  next connection hreading =>
    have hleft := le_of_mem_attemptTimes hmem
    rw [hreading] at hbound
    cases hcoming : state.coming with
    | nil =>
        rw [hcoming] at hbound hleft
        have hending : bound ≤ state.ending := hbound _ _ rfl
        simp only [Delivery.leftAt] at hleft
        omega
    | cons first rest =>
        obtain ⟨next, item⟩ := first
        obtain ⟨-, hsorted⟩ := hkeeps.behind hreading hcoming
        rw [hcoming] at hbound hleft
        have hnext : bound ≤ next := hbound _ item.input rfl
        have hlasts := Delivery.le_leftAt hsorted item
        omega
  next waiting hwaiting =>
    rw [hwaiting] at hbound
    exact Nat.le_trans (hbound _ _ rfl) (le_of_mem_attemptTimes hmem)
  next hended => exact absurd hended hstage

/-- Cut at a time that is none of its times, a stream has made the requests before it. -/
theorem Keeps.attempts_eq_filter (hkeeps : state.Keeps times) {bound : Nat}
    (hnow : state.now ≤ bound)
    (hbound : ∀ time input, state.next? = some (time, input) → bound ≤ time)
    (hother : bound ∉ times) : state.attempts = times.filter (· < bound) := by
  have hmade : state.attempts.filter (· < bound) = state.attempts := by
    rw [List.filter_eq_self]
    intro time hmem
    have hle := hkeeps.attempts_le time hmem
    have hne : time ≠ bound := by
      rintro rfl
      exact hother (hkeeps.attempts_eq ▸ List.mem_append_left _ hmem)
    exact decide_eq_true (by omega)
  have hrest : state.future.filter (· < bound) = [] := by
    rw [List.filter_eq_nil_iff]
    intro time hmem
    have hle := hkeeps.le_of_mem_future hbound hmem
    simpa using hle
  rw [← hkeeps.attempts_eq, List.filter_append, hmade, hrest, List.append_nil]

/-! ## A script that closes no stream -/

/-- What a stream still goes through: the rest of its connection while it reads one, and the
rest of the script. -/
def outlook (state : ScriptedStream) : List Outcome :=
  match state.stream.stage with
  | .reading _ => .connection state.coming state.ending :: state.script
  | _ => state.script

/-- How much there is left to happen. -/
def weight (state : ScriptedStream) : Nat :=
  Outcome.totalWeight state.outlook +
    match state.stream.stage with
    | .connecting => 1
    | .waiting _ => 2
    | .reading _ | .ended => 0

/-- Where nothing closes the stream, a tick keeps it to its times and there is less left, or
the script is over and every request is made. -/
theorem Keeps.progress (hkeeps : state.Keeps times)
    (hopen : ∀ outcome ∈ state.outlook, outcome.closes = false) :
    (state.tick = state ∧ state.attempts = times) ∨
      state.tick.Keeps times ∧ (∀ outcome ∈ state.tick.outlook, outcome.closes = false) ∧
        state.tick.weight < state.weight := by
  have hticks := ticks_tick hkeeps.closed_eq hkeeps.stage_ne
  have hnext := hkeeps.tick
  have hattempts := hkeeps.attempts_eq
  -- A tick that leaves the stream open keeps it to its times, whatever else it does.
  have hstill : state.tick.stream.closed = false → state.tick.Keeps times := by
    intro hclosed
    refine hnext.resolve_right ?_
    rintro ⟨hnot, -⟩
    rw [hclosed] at hnot
    cases hnot
  have hclosed := hkeeps.closed_eq
  generalize state.tick = next at hticks hstill ⊢
  cases hticks with
  | idle hstage hscript =>
      refine .inl ⟨rfl, ?_⟩
      simpa [future, hstage, hscript, attemptTimes] using hattempts
  | refused hstage hscript =>
      simp only [outlook, hstage, hscript] at hopen
      refine .inr ⟨hstill hclosed, (List.forall_mem_cons.mp hopen).2, ?_⟩
      simp only [weight, outlook, Stream.wait, hstage, hscript, Outcome.totalWeight,
        Outcome.weight]
      omega
  | @accepted items span rest hstage hscript =>
      simp only [outlook, hstage, hscript] at hopen
      obtain ⟨hitems, hrest⟩ := List.forall_mem_cons.mp hopen
      refine .inr ⟨hstill hclosed, List.forall_mem_cons.mpr ⟨?_, hrest⟩, ?_⟩
      · exact (Outcome.closes_shift _ _ _).trans hitems
      · simp [weight, outlook, hstage, hscript, Outcome.totalWeight, Outcome.weight]
  | passed hstage hcoming hdecode =>
      simp only [outlook, hstage, hcoming] at hopen
      obtain ⟨hitems, hrest⟩ := List.forall_mem_cons.mp hopen
      rw [Outcome.closes_of_ne_closed hdecode] at hitems
      refine .inr ⟨hstill hclosed, ?_, ?_⟩
      · simp only [outlook, hstage]
        exact List.forall_mem_cons.mpr ⟨hitems, hrest⟩
      · simp [weight, outlook, hstage, hcoming, Outcome.totalWeight, Outcome.weight]
  | closed hstage hcoming hdecode =>
      simp only [outlook, hstage, hcoming] at hopen
      obtain ⟨hitems, -⟩ := List.forall_mem_cons.mp hopen
      rw [Outcome.closes_of_closed hdecode] at hitems
      cases hitems
  | faulted hstage hcoming =>
      simp only [outlook, hstage] at hopen
      refine .inr ⟨hstill hclosed, (List.forall_mem_cons.mp hopen).2, ?_⟩
      simp only [weight, outlook, Stream.wait, hstage, Outcome.totalWeight,
        Outcome.weight]
      omega
  | disconnected hstage hcoming =>
      simp only [outlook, hstage] at hopen
      refine .inr ⟨hstill hclosed, (List.forall_mem_cons.mp hopen).2, ?_⟩
      simp only [weight, outlook, Stream.wait, hstage, Outcome.totalWeight,
        Outcome.weight]
      omega
  | woken hstage =>
      simp only [outlook, hstage] at hopen
      refine .inr ⟨hstill hclosed, hopen, ?_⟩
      simp [weight, outlook, hstage]

/-- Where nothing closes the stream, it comes to all of its requests and makes no other one. -/
theorem Keeps.exists_all_attempts (hkeeps : state.Keeps times)
    (hopen : ∀ outcome ∈ state.outlook, outcome.closes = false) :
    ∃ count, ∀ more, (ScriptedStream.tick^[count + more] state).attempts = times := by
  induction hweight : state.weight using Nat.strongRecOn generalizing state with
  | ind weight ih =>
      rcases hkeeps.progress hopen with ⟨hidle, hattempts⟩ | ⟨hnext, hstill, hlt⟩
      · refine ⟨0, ?_⟩
        intro more
        rw [Nat.zero_add, Function.iterate_fixed hidle, hattempts]
      · obtain ⟨count, hall⟩ := ih _ (hweight ▸ hlt) hnext hstill rfl
        refine ⟨count + 1, ?_⟩
        intro more
        rw [Nat.add_right_comm, Function.iterate_succ_apply]
        exact hall more

/-! ## All requests of a stream -/

/-- Whether nothing happens before a time that is not over. -/
def QuietUntil (state : ScriptedStream) (time : Nat) : Prop :=
  state.now ≤ time ∧ ∀ later input, state.next? = some (later, input) → time ≤ later

theorem coming_of_next?_text {time : Nat} {text : String}
    (hnext : state.next? = some (time, .text text)) :
    ∃ connection rest, state.stream.stage = .reading connection ∧
      state.coming = (time, .text text) :: rest := by
  unfold next? at hnext
  split at hnext
  next =>
    obtain ⟨outcome, -, hanswer⟩ := Option.map_eq_some_iff.mp hnext
    cases outcome <;> cases hanswer
  next connection hreading =>
    split at hnext
    next first item rest hcoming =>
      cases item with
      | fault reason => cases hnext
      | text content =>
          cases hnext
          exact ⟨connection, rest, hreading, hcoming⟩
    next => cases hnext
  next => cases hnext
  next => cases hnext

theorem tick_of_closed_frame (hclosed : state.stream.closed = false) {time : Nat}
    {text : String} (hnext : state.next? = some (time, .text text))
    (hdecode : Frame.decode text = .ok .closed) :
    state.tick.stream.closed = true ∧ state.tick.attempts = state.attempts := by
  obtain ⟨connection, rest, hreading, -⟩ := coming_of_next?_text hnext
  simp [tick, hnext, Stream.step_text hclosed hreading, Stream.readText, hdecode, Stream.asks]

/-- After its owner has closed it a stream is at its end and makes no request. -/
theorem Keeps.closeAt (hkeeps : state.Keeps times) {time : Nat} (hquiet : state.QuietUntil time)
    (hother : time ∉ times) (more : Nat) :
    (state.closeAt time).stream.isFinished = true ∧
      (ScriptedStream.tick^[more] (state.closeAt time)).attempts = times.filter (· < time) := by
  have hstep : state.stream.close.step time .elapsed =
      ({ state.stream.close with stage := .ended }, none) := Stream.step_of_closed rfl _ _
  have hclosed : (state.closeAt time).stream.closed = true := by
    rw [ScriptedStream.closeAt, hstep]
    rfl
  refine ⟨?_, ?_⟩
  · rw [ScriptedStream.closeAt, hstep]
    rfl
  · rw [attempts_iterate_of_closed hclosed]
    exact hkeeps.attempts_eq_filter hquiet.1 hquiet.2 hother

/-- After a frame has closed it a stream makes no request. -/
theorem Keeps.closed_frame (hkeeps : state.Keeps times) {time : Nat} {text : String}
    (hnext : state.next? = some (time, .text text)) (hdecode : Frame.decode text = .ok .closed)
    (hother : time ∉ times) (more : Nat) :
    (ScriptedStream.tick^[more] state).attempts = times.filter (· < time) := by
  obtain ⟨connection, rest, hreading, hcoming⟩ := coming_of_next?_text hnext
  obtain ⟨hnow, -⟩ := hkeeps.behind hreading hcoming
  have hmade : state.attempts = times.filter (· < time) := by
    apply hkeeps.attempts_eq_filter hnow ?_ hother
    intro later input hlater
    rw [hnext] at hlater
    cases hlater
    exact Nat.le_refl _
  cases more with
  | zero => exact hmade
  | succ more =>
      obtain ⟨hclosed, hsame⟩ := tick_of_closed_frame hkeeps.closed_eq hnext hdecode
      rw [Function.iterate_succ_apply, attempts_iterate_of_closed hclosed, hsame, hmade]

/-- A stream under a script after a number of ticks. -/
def after (url : String) (delay start : Nat) (script : List Outcome) (count : Nat) :
    ScriptedStream :=
  tick^[count] (opened url delay start script)

/-- A stream asks when it is opened, and then a delay after each refusal, each first fault and
each end of a connection, whatever came before. It makes these requests and no others, all of
them where the script does not close it, however long the script is. Where its owner closes it,
or a frame does, at a time that is none of these, it has made the requests before this time and
makes no other one. -/
theorem requests_on_time (url : String) (delay start : Nat) (script : List Outcome)
    (horderly : ∀ outcome ∈ script, outcome.Orderly) :
    ((attemptTimes delay start script).head? = some start ∧
      (attemptTimes delay start script).length = script.length + 1 ∧
      ∀ index outcome, script[index]? = some outcome →
        (attemptTimes delay start script)[index + 1]? =
          (attemptTimes delay start script)[index]?.map fun time =>
            time + outcome.lasts + delay) ∧
    (∀ count, (after url delay start script count).attempts <+:
      attemptTimes delay start script) ∧
    ((∀ outcome ∈ script, outcome.closes = false) → ∃ count, ∀ more,
      (after url delay start script (count + more)).attempts =
        attemptTimes delay start script) ∧
    (∀ count time, (after url delay start script count).stream.closed = false →
      (after url delay start script count).QuietUntil time →
      time ∉ attemptTimes delay start script → ∀ more,
        ((after url delay start script count).closeAt time).stream.isFinished = true ∧
          (tick^[more] ((after url delay start script count).closeAt time)).attempts =
            (attemptTimes delay start script).filter (· < time)) ∧
    ∀ count time text, (after url delay start script count).stream.closed = false →
      (after url delay start script count).next? = some (time, .text text) →
      Frame.decode text = .ok .closed → time ∉ attemptTimes delay start script → ∀ more,
        (after url delay start script (count + more)).attempts =
          (attemptTimes delay start script).filter (· < time) := by
  have hopened := keeps_opened url delay start horderly
  have hkeeps : ∀ count, (after url delay start script count).stream.closed = false →
      (after url delay start script count).Keeps (attemptTimes delay start script) := by
    intro count hclosed
    refine (hopened.iterate count).resolve_right ?_
    rintro ⟨hnot, -⟩
    rw [after] at hclosed
    rw [hclosed] at hnot
    cases hnot
  refine ⟨⟨?_, ?_, ?_⟩, ?_, ?_, ?_, ?_⟩
  · exact head?_attemptTimes delay start script
  · exact length_attemptTimes delay start script
  · intro index outcome houtcome
    exact getElem?_succ_attemptTimes delay start script houtcome
  · intro count
    rcases hopened.iterate count with hstill | ⟨-, hattempts⟩
    · exact ⟨_, hstill.attempts_eq⟩
    · exact hattempts
  · exact hopened.exists_all_attempts
  · intro count time hclosed hquiet hother more
    exact (hkeeps count hclosed).closeAt hquiet hother more
  · intro count time text hclosed hnext hdecode hother more
    rw [after, Nat.add_comm, Function.iterate_add_apply]
    exact (hkeeps count hclosed).closed_frame hnext hdecode hother more

/-- A refusal, a connection with a fault, and one that the server ends. -/
def roughScript : List Outcome :=
  [.refusal, .connection [(40, .text "no frame"), (70, .fault "reset by peer")] 90,
    .connection [] 2000]

def closingText : String := "\x7b\"type\":\"CLOSED\"\x7d"

theorem decode_closingText : Frame.decode closingText = .ok .closed := by
  have hclosed : (Frame.decode closingText).toOption.any Frame.isClosed = true := by
    decide +kernel
  cases hdecode : Frame.decode closingText with
  | error fault =>
      rw [hdecode] at hclosed
      cases hclosed
  | ok frame =>
      rw [hdecode] at hclosed
      cases frame with
      | closed => rfl
      | event event => cases hclosed

/-- The rough script, and then a connection on which the server closes the stream. -/
def closingScript : List Outcome :=
  roughScript ++ [.connection [(500, .text closingText)] 900]

/-- With a delay of five seconds the rough script leads to four requests. The last one is not
made if the owner closes the stream while it waits for it, and none follows it if the server
closes its connection. -/
theorem requests_on_time_roughScript :
    (∃ count, ∀ more, (after "ws://far" 5000 100 roughScript (count + more)).attempts =
        [100, 5100, 10170, 17170]) ∧
      (∀ more, (tick^[more] ((after "ws://far" 5000 100 roughScript 8).closeAt
        13000)).attempts = [100, 5100, 10170]) ∧
      ∀ more, (after "ws://far" 5000 100 closingScript (10 + more)).attempts =
        [100, 5100, 10170, 17170] := by
  have horderly : ∀ outcome ∈ closingScript, outcome.Orderly := by
    simp [closingScript, roughScript, Outcome.Orderly]
  obtain ⟨-, -, hall, howner, -⟩ := requests_on_time "ws://far" 5000 100 roughScript
    fun outcome hmem => horderly outcome (List.mem_append_left _ hmem)
  obtain ⟨-, -, -, -, hserver⟩ := requests_on_time "ws://far" 5000 100 closingScript horderly
  refine ⟨?_, ?_, ?_⟩
  · have hopen : roughScript.all (fun outcome => !outcome.closes) = true := by decide +kernel
    refine hall ?_
    intro outcome hmem
    simpa using List.all_eq_true.mp hopen outcome hmem
  · have hnext : (after "ws://far" 5000 100 roughScript 8).next? = some (17170, .elapsed) := by
      decide +kernel
    have hquiet : (after "ws://far" 5000 100 roughScript 8).QuietUntil 13000 := by
      refine ⟨by decide +kernel, ?_⟩
      intro later input hlater
      rw [hnext] at hlater
      cases hlater
      decide
    intro more
    exact (howner 8 13000 (by decide +kernel) hquiet (by decide) more).2
  · have hnext : (after "ws://far" 5000 100 closingScript 10).next? =
        some (17670, .text closingText) := by decide +kernel
    exact hserver 10 17670 closingText (by decide +kernel) hnext decode_closingText (by decide)

end ScriptedStream

end ResourceWatch
