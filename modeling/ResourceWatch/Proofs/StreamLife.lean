import ResourceWatch.Network
import ResourceWatch.Stream.Basic

/-! # The life of a stream

A script says how a server answers the requests of a stream, one after the other. What
the stream passes on over its whole life can be read off the script: the events of the
texts that decode, connection after connection, up to the first fault of each connection
and up to the first frame that closes a stream. It asks until a connection closes it and
for ever if none does. Texts that do not decode leave no trace.
-/

namespace ResourceWatch

/-! ## Scripts -/

/-- What a stream takes for a delivery. -/
def Delivery.input : Delivery → StreamInput
  | text content => .text content
  | fault _ => .fault

/-- How a server answers one request: by a refusal, or by a connection whose items come
at times after the request and which ends after a span of time. -/
inductive Outcome where
  | refusal
  | connection (items : List (Nat × Delivery)) (span : Nat)

/-- What a stream did under a script: its requests, the events it passed on, and how it
stands when the script is over. -/
structure Life where
  requests : List (Nat × String)
  events : List WatchEvent
  last : Stream

/-- A life with a request and some events in front. -/
def Life.prepend (life : Life) (request : Nat × String) (events : List WatchEvent) : Life :=
  ⟨request :: life.requests, events ++ life.events, life.last⟩

namespace Stream

/-- Reads a connection, each item and at last its end at its own time, for as long as
the stream does not leave it. -/
def readAll (start span : Nat) (stream : Stream) :
    List (Nat × Delivery) → Stream × List WatchEvent
  | [] =>
    let (next, event) := stream.step (start + span) .disconnected
    (next, event.toList)
  | (time, item) :: rest =>
    let (next, event) := stream.step (start + time) item.input
    match next.connection? with
    | some _ =>
      let (last, events) := next.readAll start span rest
      (last, event.toList ++ events)
    | none => (next, event.toList)

/-- Takes the answer to a request that is made at a time. The number of a connection
means nothing to a stream. -/
def take (now : Nat) (stream : Stream) : Outcome → Stream × List WatchEvent
  | .refusal =>
    let (next, event) := stream.step now .refused
    (next, event.toList)
  | .connection items span => (stream.step now (.accepted 0)).1.readAll now span items

/-- Whether the next thing a stream does is to ask for a connection. -/
def asks (stream : Stream) : Bool := !stream.closed && stream.stage = .connecting

/-- Lets the delay of a stream that waits go by. Any other stream stays as it is. -/
def wake (now : Nat) (stream : Stream) : Nat × Stream :=
  match stream.deadline with
  | some time => (time, (stream.step time .elapsed).1)
  | none => (now, stream)

/-- The life of a stream from a time on. Each request takes the next outcome of the
script, for as long as the stream asks. A request after the end of the script stays
without an answer. -/
def live (now : Nat) (stream : Stream) : List Outcome → Life
  | [] => ⟨if stream.asks then [(now, stream.url)] else [], [], stream⟩
  | outcome :: script =>
    if stream.asks then
      let (left, events) := stream.take now outcome
      let (later, woken) := left.wake now
      (woken.live later script).prepend (now, stream.url) events
    else ⟨[], [], stream⟩

end Stream

/-! ## What a script says -/

/-- The texts in front of the first fault. -/
def Delivery.readable : List Delivery → List String
  | text content :: rest => content :: readable rest
  | fault _ :: _ => []
  | [] => []

namespace Frame

/-- The frames of the texts that decode. -/
def ofTexts (texts : List String) : List Frame :=
  texts.filterMap fun text => (decode text).toOption

/-- Whether a frame closes its stream. -/
def isClosed : Frame → Bool
  | closed => true
  | event _ => false

/-- The events in front of the first frame that closes a stream. -/
def eventsBeforeClosed : List Frame → List WatchEvent
  | event change :: rest => change :: eventsBeforeClosed rest
  | closed :: _ => []
  | [] => []

end Frame

namespace Outcome

/-- The texts that a stream can read of an outcome. -/
def texts : Outcome → List String
  | refusal => []
  | connection items _ => Delivery.readable (items.map Prod.snd)

/-- Whether a stream can read a frame that closes it. -/
def closes (outcome : Outcome) : Bool := (Frame.ofTexts outcome.texts).any Frame.isClosed

/-- Whether an item is a fault or a text that decodes. -/
def decodes (item : Nat × Delivery) : Bool :=
  match item.2 with
  | .text text => (Frame.decode text).isOk
  | .fault _ => true

/-- The outcome without the texts that do not decode. -/
def decodable : Outcome → Outcome
  | refusal => refusal
  | connection items span => connection (items.filter decodes) span

end Outcome

namespace Frame

/-- Frames behind others count only if none of the others closes the stream. -/
theorem eventsBeforeClosed_append (frames more : List Frame) :
    eventsBeforeClosed (frames ++ more) =
      eventsBeforeClosed frames ++
        if frames.any isClosed then [] else eventsBeforeClosed more := by
  induction frames with
  | nil => rfl
  | cons frame rest ih =>
      cases frame with
      | event change =>
          simp only [List.cons_append, eventsBeforeClosed, ih]
          rfl
      | closed => rfl

end Frame

/-- Texts behind those of an outcome count only if the outcome does not close the
stream. -/
theorem Outcome.eventsBeforeClosed_texts_append (outcome : Outcome) (more : List String) :
    Frame.eventsBeforeClosed (Frame.ofTexts (outcome.texts ++ more)) =
      Frame.eventsBeforeClosed (Frame.ofTexts outcome.texts) ++
        if outcome.closes then [] else Frame.eventsBeforeClosed (Frame.ofTexts more) := by
  rw [Frame.ofTexts, List.filterMap_append, Frame.eventsBeforeClosed_append]
  rfl

namespace Stream

/-- The stream at its end for good. -/
def finished (stream : Stream) : Stream := { stream with closed := true, stage := .ended }

/-! ## One connection -/

section Reading

variable {stream : Stream} (hclosed : stream.closed = false) {connection : Nat}
  (hstage : stream.stage = .reading connection) (start span : Nat)

include hclosed hstage

theorem readAll_nil :
    stream.readAll start span [] = (stream.wait (start + span), []) := by
  rw [readAll, step_disconnected hclosed hstage]
  rfl

theorem readAll_fault (time : Nat) (reason : String) (rest : List (Nat × Delivery)) :
    stream.readAll start span ((time, .fault reason) :: rest) =
      (stream.wait (start + time), []) := by
  rw [readAll, Delivery.input, step_fault hclosed hstage]
  rfl

/-- A text that does not decode might as well not be there. -/
theorem readAll_undecodable {text : String} {fault : DecodeError}
    (hdecode : Frame.decode text = .error fault) (time : Nat) (rest : List (Nat × Delivery)) :
    stream.readAll start span ((time, .text text) :: rest) = stream.readAll start span rest := by
  rw [readAll, Delivery.input, step_text hclosed hstage, readText, hdecode]
  simp [connection?, hstage]

theorem readAll_event {text : String} {event : WatchEvent}
    (hdecode : Frame.decode text = .ok (.event event)) (time : Nat)
    (rest : List (Nat × Delivery)) :
    stream.readAll start span ((time, .text text) :: rest) =
      ((stream.readAll start span rest).1, event :: (stream.readAll start span rest).2) := by
  rw [readAll, Delivery.input, step_text hclosed hstage, readText, hdecode]
  simp [connection?, hstage]

theorem readAll_closed {text : String} (hdecode : Frame.decode text = .ok .closed) (time : Nat)
    (rest : List (Nat × Delivery)) :
    stream.readAll start span ((time, .text text) :: rest) = (stream.finished, []) := by
  rw [readAll, Delivery.input, step_text hclosed hstage, readText, hdecode]
  rfl

/-- A stream that reads a connection passes on the events in front of the first fault and
of the first closing frame. A closing frame ends it, and otherwise it waits. -/
theorem readAll_spec (items : List (Nat × Delivery)) :
    (stream.readAll start span items).2 =
        Frame.eventsBeforeClosed (Frame.ofTexts (Delivery.readable (items.map Prod.snd))) ∧
      if (Frame.ofTexts (Delivery.readable (items.map Prod.snd))).any Frame.isClosed then
        (stream.readAll start span items).1 = stream.finished
      else ∃ now, (stream.readAll start span items).1 = stream.wait now := by
  -- The stream is still the same wherever the loop comes back to it, so the hypothesis of
  -- the induction needs no other stream.
  induction items with
  | nil =>
      rw [readAll_nil hclosed hstage]
      exact ⟨rfl, start + span, rfl⟩
  | cons item rest ih =>
      obtain ⟨time, delivery⟩ := item
      cases delivery with
      | fault reason =>
          rw [readAll_fault hclosed hstage]
          exact ⟨rfl, start + time, rfl⟩
      | text text =>
          rw [List.map_cons, Delivery.readable, Frame.ofTexts, List.filterMap_cons]
          cases hdecode : Frame.decode text with
          | error fault =>
              rw [readAll_undecodable hclosed hstage start span hdecode]
              exact ih
          | ok frame =>
              cases frame with
              | event event =>
                  rw [readAll_event hclosed hstage start span hdecode]
                  exact ⟨congrArg (event :: ·) ih.1, ih.2⟩
              | closed =>
                  rw [readAll_closed hclosed hstage start span hdecode]
                  exact ⟨rfl, rfl⟩

/-- Texts that do not decode change neither what is passed on nor how the stream leaves
the connection. -/
theorem readAll_filter (items : List (Nat × Delivery)) :
    stream.readAll start span (items.filter Outcome.decodes) =
      stream.readAll start span items := by
  induction items with
  | nil => rfl
  | cons item rest ih =>
      obtain ⟨time, delivery⟩ := item
      cases delivery with
      | fault reason =>
          rw [List.filter_cons_of_pos rfl, readAll_fault hclosed hstage,
            readAll_fault hclosed hstage]
      | text text =>
          cases hdecode : Frame.decode text with
          | error fault =>
              rw [readAll_undecodable hclosed hstage start span hdecode,
                List.filter_cons_of_neg (by simp [Outcome.decodes, hdecode, Except.isOk,
                  Except.toBool]), ih]
          | ok frame =>
              rw [List.filter_cons_of_pos (by simp [Outcome.decodes, hdecode, Except.isOk,
                Except.toBool])]
              cases frame with
              | event event =>
                  rw [readAll_event hclosed hstage start span hdecode,
                    readAll_event hclosed hstage start span hdecode, ih]
              | closed =>
                  rw [readAll_closed hclosed hstage start span hdecode,
                    readAll_closed hclosed hstage start span hdecode]

end Reading

/-! ## The answer to one request -/

section Asking

variable (stream : Stream) (hclosed : stream.closed = false)
  (hstage : stream.stage = .connecting) (now : Nat)

include hclosed hstage

theorem take_spec (outcome : Outcome) :
    (stream.take now outcome).2 = Frame.eventsBeforeClosed (Frame.ofTexts outcome.texts) ∧
      if outcome.closes then (stream.take now outcome).1 = stream.finished
      else ∃ time, (stream.take now outcome).1 = stream.wait time := by
  cases outcome with
  | refusal =>
      rw [take, step_refused hclosed hstage]
      exact ⟨rfl, now, rfl⟩
  | connection items span =>
      rw [take, step_accepted hclosed hstage]
      let reading : Stream := { stream with stage := .reading 0 }
      have hopen : reading.closed = false := hclosed
      have hreading : reading.stage = .reading 0 := rfl
      exact readAll_spec hopen hreading now span items

theorem take_decodable (outcome : Outcome) :
    stream.take now outcome.decodable = stream.take now outcome := by
  cases outcome with
  | refusal => rfl
  | connection items span =>
      rw [Outcome.decodable, take, take, step_accepted hclosed hstage]
      let reading : Stream := { stream with stage := .reading 0 }
      have hopen : reading.closed = false := hclosed
      have hreading : reading.stage = .reading 0 := rfl
      exact readAll_filter hopen hreading now span items

end Asking

/-! ## The whole life -/

theorem live_of_not_asks (stream : Stream) (hasks : stream.asks = false) (now : Nat)
    (script : List Outcome) : stream.live now script = ⟨[], [], stream⟩ := by
  cases script <;> simp [live, hasks]

section Script

variable (url : String) (delay now : Nat)

theorem wake_finished :
    (new url delay).finished.wake now = (now, (new url delay).finished) := rfl

/-- A stream that waits begins again as a new one, after its delay. -/
theorem wake_wait (time : Nat) :
    ((new url delay).wait time).wake now = (time + delay, new url delay) := by
  have hopen : ((new url delay).wait time).closed = false := rfl
  have hwaiting : ((new url delay).wait time).stage = .waiting (time + delay) := rfl
  have hdeadline : ((new url delay).wait time).deadline = some (time + delay) := rfl
  simp only [wake, hdeadline, step_elapsed hopen hwaiting]
  rfl

theorem live_cons (outcome : Outcome) (script : List Outcome) :
    (new url delay).live now (outcome :: script) =
      ((((new url delay).take now outcome).1.wake now).2.live
        (((new url delay).take now outcome).1.wake now).1 script).prepend (now, url)
          ((new url delay).take now outcome).2 := rfl

/-- An outcome that closes the stream is the last one that it looks at. -/
theorem live_cons_of_closes {outcome : Outcome} (hcloses : outcome.closes = true)
    (script : List Outcome) :
    (new url delay).live now (outcome :: script) =
      ⟨[(now, url)], Frame.eventsBeforeClosed (Frame.ofTexts outcome.texts),
        (new url delay).finished⟩ := by
  obtain ⟨hevents, hleft⟩ := (new url delay).take_spec rfl rfl now outcome
  rw [if_pos hcloses] at hleft
  rw [live_cons, hleft, hevents, wake_finished]
  simp [(new url delay).finished.live_of_not_asks rfl, Life.prepend]

/-- After any other outcome the stream waits for its delay and begins again. -/
theorem live_cons_of_not_closes {outcome : Outcome} (hcloses : ¬outcome.closes)
    (script : List Outcome) :
    ∃ later, (new url delay).live now (outcome :: script) =
      ((new url delay).live later script).prepend (now, url)
        (Frame.eventsBeforeClosed (Frame.ofTexts outcome.texts)) := by
  obtain ⟨hevents, hleft⟩ := (new url delay).take_spec rfl rfl now outcome
  rw [if_neg hcloses] at hleft
  obtain ⟨time, hleft⟩ := hleft
  refine ⟨time + delay, ?_⟩
  rw [live_cons, hleft, hevents, wake_wait]

theorem live_events (script : List Outcome) :
    ((new url delay).live now script).events =
      Frame.eventsBeforeClosed (Frame.ofTexts (script.flatMap Outcome.texts)) := by
  -- An outcome moves the next request to another time, which changes no event.
  induction script generalizing now with
  | nil => rfl
  | cons outcome rest ih =>
      rw [List.flatMap_cons, outcome.eventsBeforeClosed_texts_append]
      by_cases hcloses : outcome.closes
      · rw [live_cons_of_closes url delay now hcloses, if_pos hcloses, List.append_nil]
      · obtain ⟨later, hlive⟩ := live_cons_of_not_closes url delay now hcloses rest
        rw [hlive, Life.prepend, ih later, if_neg hcloses]

theorem live_requests (script : List Outcome) :
    ((new url delay).live now script).requests.map Prod.snd =
      List.replicate ((script.takeWhile fun outcome => !outcome.closes).length + 1) url := by
  induction script generalizing now with
  | nil => rfl
  | cons outcome rest ih =>
      by_cases hcloses : outcome.closes
      · rw [live_cons_of_closes url delay now hcloses,
          List.takeWhile_cons_of_neg (by simpa using hcloses)]
        rfl
      · obtain ⟨later, hlive⟩ := live_cons_of_not_closes url delay now hcloses rest
        rw [hlive, List.takeWhile_cons_of_pos (by simpa using hcloses), List.length_cons,
          List.replicate_succ, ← ih later]
        rfl

theorem live_closed (script : List Outcome) :
    ((new url delay).live now script).last.closed = script.any Outcome.closes := by
  induction script generalizing now with
  | nil => rfl
  | cons outcome rest ih =>
      rw [List.any_cons]
      by_cases hcloses : outcome.closes
      · rw [live_cons_of_closes url delay now hcloses, hcloses]
        rfl
      · obtain ⟨later, hlive⟩ := live_cons_of_not_closes url delay now hcloses rest
        rw [hlive, Bool.of_not_eq_true hcloses]
        exact ih later

theorem live_decodable (script : List Outcome) :
    (new url delay).live now (script.map Outcome.decodable) = (new url delay).live now script := by
  induction script generalizing now with
  | nil => rfl
  | cons outcome rest ih =>
      have htake := (new url delay).take_decodable rfl rfl now outcome
      obtain ⟨-, hleft⟩ := (new url delay).take_spec rfl rfl now outcome
      rw [List.map_cons, live_cons, live_cons, htake]
      by_cases hcloses : outcome.closes
      · rw [if_pos hcloses] at hleft
        rw [hleft, wake_finished, live_of_not_asks _ rfl, live_of_not_asks _ rfl]
      · rw [if_neg hcloses] at hleft
        obtain ⟨time, hleft⟩ := hleft
        rw [hleft, wake_wait, ih]

/-- Over its whole life a stream that nobody closes passes on the events of the texts that
can be read and decode, in their order, up to the first frame that closes it. It asks
the same address again after every outcome in front of the first one with such a frame,
and it is closed exactly if there is one. Without the texts that do not decode its life
is the same. -/
theorem life_of_script (script : List Outcome) :
    ((new url delay).live now script).events =
        Frame.eventsBeforeClosed (Frame.ofTexts (script.flatMap Outcome.texts)) ∧
      ((new url delay).live now script).requests.map Prod.snd =
        List.replicate ((script.takeWhile fun outcome => !outcome.closes).length + 1) url ∧
      ((new url delay).live now script).last.closed = script.any Outcome.closes ∧
      (new url delay).live now (script.map Outcome.decodable) =
        (new url delay).live now script :=
  ⟨live_events url delay now script, live_requests url delay now script,
    live_closed url delay now script, live_decodable url delay now script⟩

end Script

end Stream

end ResourceWatch
