import ResourceWatch.Proofs.StreamLife
import ResourceWatch.Stream.Line

/-! # The end of a stream

A stream that is closed is over, wherever it stands when that happens: before its first
request, while the answer to one is on its way, between two texts with more of them ready,
or in its delay. What is ready at that moment stays where it is. From then on the stream
passes nothing on and asks for nothing, it never comes open again, and it is at its end as
soon as it runs.
-/

namespace ResourceWatch

/-- What can happen while a stream is at work. -/
inductive StreamAction where
  /-- The owner closes the stream or lets go of it. -/
  | close
  /-- The far side becomes another one, or time passes. -/
  | outside (network : Network) (now : Nat)
  /-- The stream takes what is ready, and one thing at least if there is any. It may stop
  with more of it ready. -/
  | run (more : Nat)
  /-- The stream sleeps and runs for a span of time. -/
  | sleep (span : Nat)
  /-- The stream makes a request that is not answered at once. -/
  | ask
  /-- The answer to such a request comes, a connection or a refusal. -/
  | answer (connection : Option Nat)

/-- Whether the stream runs. -/
def StreamAction.wakes : StreamAction → Bool
  | close | outside _ _ => false
  | _ => true

/-- What a stream does that others can see: the events that it passes on, and the number
of its requests. -/
structure StreamDeeds where
  events : List WatchEvent
  requests : Nat

namespace StreamDeeds

def none : StreamDeeds := ⟨[], 0⟩

def append (deeds more : StreamDeeds) : StreamDeeds :=
  ⟨deeds.events ++ more.events, deeds.requests + more.requests⟩

end StreamDeeds

/-- A stream at work, and whether a request of it is on its way. -/
structure StreamCourse where
  line : Line
  asked : Bool

namespace StreamCourse

/-- A stream as it is opened. -/
def new (url : String) (delay : Nat) (network : Network) (now : Nat) : StreamCourse :=
  ⟨⟨.new url delay, network, now⟩, false⟩

variable (course : StreamCourse)

/-- What a line made of its stream. The network counts the requests. -/
def followed (result : Line × List WatchEvent) : StreamCourse × StreamDeeds :=
  (⟨result.1, false⟩, ⟨result.2, result.1.network.attempts - course.line.network.attempts⟩)

/-- Whether an open stream waits for the answer to a request. -/
def isWaiting : Bool := course.asked && !course.line.stream.closed

/-- Runs the stream, unless it waits for an answer. -/
def advance (more : Nat) : StreamCourse × StreamDeeds :=
  if course.isWaiting then (course, .none)
  else
    let (stream, network, events) :=
      course.line.stream.run (more + 1) course.line.network course.line.now
    course.followed (⟨stream, network, course.line.now⟩, events)

/-- The course after an action, with what the stream did. -/
def act : StreamAction → StreamCourse × StreamDeeds
  | .close => (⟨{ course.line with stream := course.line.stream.close }, course.asked⟩, .none)
  | .outside network now => (⟨⟨course.line.stream, network, now⟩, course.asked⟩, .none)
  | .run more => course.advance more
  | .sleep span =>
    if course.isWaiting then (course, .none) else course.followed (course.line.sleep span)
  | .ask =>
    if course.line.stream.asks && !course.asked then (⟨course.line, true⟩, ⟨[], 1⟩)
    else course.advance 0
  | .answer connection =>
    if course.asked then
      let input := connection.elim .refused .accepted
      let (stream, event) := course.line.stream.step course.line.now input
      (⟨{ course.line with stream := stream }, false⟩, ⟨event.toList, 0⟩)
    else course.advance 0

/-- The course after some actions, with all that the stream did. -/
def run (course : StreamCourse) : List StreamAction → StreamCourse × StreamDeeds
  | [] => (course, .none)
  | action :: rest =>
    let (next, deeds) := course.act action
    let (last, more) := next.run rest
    (last, deeds.append more)

end StreamCourse

/-! ## Closed streams on a network -/

namespace Stream

/-- Letting go of a connection is no request. -/
theorem attempts_letGo (before after : Stream) (network : Network) :
    (letGo before after network).attempts = network.attempts := by
  unfold letGo
  split
  next => split <;> rfl
  next => rfl

/-- A stream has steps left for something that is ready. -/
theorem runBound_pos (network : Network) : 0 < runBound network := by
  have hgrows : ∀ (connections : List Connection) (total : Nat), total ≤
      connections.foldl (fun total connection => total + connection.pending.length) total := by
    intro connections
    induction connections with
    | nil => exact fun total => Nat.le_refl total
    | cons connection rest ih =>
        intro total
        exact Nat.le_trans (Nat.le_add_right _ _) (ih (total + connection.pending.length))
  exact Nat.lt_of_lt_of_le (by decide) (hgrows network.connections 4)

variable {stream : Stream} (hclosed : stream.closed = true)

include hclosed

theorem asks_of_closed : stream.asks = false := by
  simp [asks, hclosed]

/-- A closed stream ends before it looks at anything. -/
theorem run_of_closed {steps : Nat} (hsteps : 0 < steps) (network : Network) (now : Nat) :
    ∃ left : Network, left.attempts = network.attempts ∧
      stream.run steps network now = ({ stream with stage := .ended }, left, []) := by
  obtain ⟨count, rfl⟩ := Nat.exists_eq_succ_of_ne_zero (Nat.pos_iff_ne_zero.mp hsteps)
  exact ⟨_, attempts_letGo _ _ network, by rw [run, if_pos hclosed]⟩

end Stream

namespace Line

variable {line : Line} (hclosed : line.stream.closed = true)

include hclosed

theorem settle_of_closed : ∃ left : Network, left.attempts = line.network.attempts ∧
    line.settle = (⟨{ line.stream with stage := .ended }, left, line.now⟩, []) := by
  obtain ⟨left, hattempts, hrun⟩ :=
    Stream.run_of_closed hclosed (Stream.runBound_pos line.network) line.network line.now
  exact ⟨left, hattempts, by rw [settle, Stream.settle, hrun]⟩

theorem sleep_of_closed (span : Nat) : ∃ left : Network, left.attempts = line.network.attempts ∧
    line.sleep span =
      (⟨{ line.stream with stage := .ended }, left, line.now + span⟩, []) := by
  obtain ⟨left, hattempts, hsettle⟩ := settle_of_closed hclosed
  -- At its end a stream has no delay left to fire.
  exact ⟨left, hattempts, by rw [sleep, hsettle]; rfl⟩

end Line

/-! ## Closed for good -/

namespace StreamCourse

/-- Whether the stream is closed for good: it has done nothing, it is still closed, and it
is at its end if it was before or has run. -/
structure Quiet (course next : StreamCourse) (deeds : StreamDeeds) (ran : Bool) : Prop where
  deeds_eq : deeds = .none
  closed : next.line.stream.closed = true
  ended : ran = true ∨ course.line.stream.isFinished = true →
    next.line.stream.isFinished = true

section Closed

variable {course : StreamCourse} (hclosed : course.line.stream.closed = true)

include hclosed

/-- What closed streams come to on their network is quiet. -/
theorem quiet_followed {left : Network} (hattempts : left.attempts = course.line.network.attempts)
    (now : Nat) :
    let result := course.followed (⟨{ course.line.stream with stage := .ended }, left, now⟩, [])
    course.Quiet result.1 result.2 true := by
  refine ⟨?_, hclosed, fun _ => rfl⟩
  simp [followed, hattempts, StreamDeeds.none]

theorem isWaiting_of_closed : course.isWaiting = false := by
  simp [isWaiting, hclosed]

theorem quiet_advance (more : Nat) :
    course.Quiet (course.advance more).1 (course.advance more).2 true := by
  obtain ⟨left, hattempts, hrun⟩ := Stream.run_of_closed hclosed (Nat.succ_pos more)
    course.line.network course.line.now
  have hadvance : course.advance more = course.followed
      (⟨{ course.line.stream with stage := .ended }, left, course.line.now⟩, []) := by
    rw [advance, isWaiting_of_closed hclosed, hrun]
    rfl
  rw [hadvance]
  exact quiet_followed hclosed hattempts course.line.now

/-- Whatever happens to a closed stream, it is quiet. -/
theorem quiet_act (action : StreamAction) :
    course.Quiet (course.act action).1 (course.act action).2 action.wakes := by
  have hkept : ∀ {next : StreamCourse}, next.line.stream.closed = true →
      next.line.stream.stage = course.line.stream.stage → course.Quiet next .none false := by
    intro next hnext hstage
    refine ⟨rfl, hnext, ?_⟩
    rintro (hran | hfinished)
    · cases hran
    · rwa [Stream.isFinished, hstage]
  cases action with
  | close => exact hkept rfl rfl
  | outside network now => exact hkept hclosed rfl
  | run more => exact quiet_advance hclosed more
  | sleep span =>
      obtain ⟨left, hattempts, hsleep⟩ := Line.sleep_of_closed hclosed span
      simp only [act, isWaiting_of_closed hclosed, hsleep]
      exact quiet_followed hclosed hattempts _
  | ask =>
      simp only [act, Stream.asks_of_closed hclosed, Bool.false_and]
      exact quiet_advance hclosed 0
  | answer connection =>
      rw [act]
      split
      next =>
        simp only [Stream.step_of_closed hclosed]
        exact ⟨rfl, hclosed, fun _ => rfl⟩
      next => exact quiet_advance hclosed 0

theorem quiet_run (actions : List StreamAction) :
    course.Quiet (course.run actions).1 (course.run actions).2
      (actions.any StreamAction.wakes) := by
  induction actions generalizing course with
  | nil => exact ⟨rfl, hclosed, by simp [run]⟩
  | cons action rest ih =>
      have hact := quiet_act hclosed action
      have hrest := ih hact.closed
      refine ⟨?_, hrest.closed, ?_⟩
      · change (course.act action).2.append ((course.act action).1.run rest).2 = .none
        rw [hact.deeds_eq, hrest.deeds_eq]
        rfl
      · intro hran
        apply hrest.ended
        rw [List.any_cons, Bool.or_eq_true] at hran
        rcases hran with (hwakes | hrun) | hfinished
        · exact .inr (hact.ended (.inl hwakes))
        · exact .inl hrun
        · exact .inr (hact.ended (.inr hfinished))

end Closed

theorem run_append (course : StreamCourse) (before after : List StreamAction) :
    course.run (before ++ after) =
      (((course.run before).1.run after).1,
        (course.run before).2.append ((course.run before).1.run after).2) := by
  induction before generalizing course with
  | nil => simp [run, StreamDeeds.append, StreamDeeds.none]
  | cons action rest ih => simp [run, ih, StreamDeeds.append, Nat.add_assoc]

/-- However a stream came to be closed and whatever happens after that, all that it does is
what it did until then. It stays closed, and once it has run it is at its end. -/
theorem closed_is_final (url : String) (delay : Nat) (network : Network) (now : Nat)
    (before after : List StreamAction)
    (hclosed : ((new url delay network now).run before).1.line.stream.closed = true) :
    ((new url delay network now).run (before ++ after)).2 =
        ((new url delay network now).run before).2 ∧
      ((new url delay network now).run (before ++ after)).1.line.stream.closed = true ∧
      (after.any StreamAction.wakes = true →
        ((new url delay network now).run (before ++ after)).1.line.stream.isFinished = true) := by
  have hquiet := quiet_run hclosed after
  rw [run_append]
  refine ⟨?_, hquiet.closed, fun hwakes => hquiet.ended (.inl hwakes)⟩
  simp [hquiet.deeds_eq, StreamDeeds.append, StreamDeeds.none]

/-- A network on which two texts wait for the reader of a connection. -/
private def twoTexts (first second : String) : Network :=
  ⟨[⟨"ws://far", [.text first, .text second], true, true⟩], false, 1⟩

/-- Ways in which a stream comes to be closed: between two texts, by the first of two
texts, while its request is on its way, and in its delay. -/
def closings : List (List StreamAction) :=
  let frame := "\x7b\"type\":\"INIT\"\x7d"
  [[.run 0, .outside (twoTexts frame frame) 7, .run 0, .close],
    [.run 0, .outside (twoTexts "\x7b\"type\":\"CLOSED\"\x7d" frame) 7, .run 0],
    [.ask, .close],
    [.outside (.new true) 3, .run 0, .close]]

/-- Each of the `closings` is final, with a text, an answer or the end of the delay
ready. -/
theorem closed_is_final_closings :
    closings.map (fun before =>
        let course := (new "ws://far" 5000 (.new false) 0).run before
        (course.1.line.stream.closed, course.2.events.length, course.2.requests)) =
      [(true, 1, 1), (true, 0, 1), (true, 0, 1), (true, 0, 1)] ∧
    ∀ before ∈ closings,
      ((new "ws://far" 5000 (.new false) 0).run (before ++ [.answer (some 0), .sleep 9000])).2 =
          ((new "ws://far" 5000 (.new false) 0).run before).2 ∧
        ((new "ws://far" 5000 (.new false) 0).run
          (before ++ [.answer (some 0), .sleep 9000])).1.line.stream.isFinished = true := by
  have hclosings : closings.map (fun before =>
        let course := (new "ws://far" 5000 (.new false) 0).run before
        (course.1.line.stream.closed, course.2.events.length, course.2.requests)) =
      [(true, 1, 1), (true, 0, 1), (true, 0, 1), (true, 0, 1)] := by decide +kernel
  refine ⟨hclosings, ?_⟩
  intro before hbefore
  have hclosed : ((new "ws://far" 5000 (.new false) 0).run before).1.line.stream.closed = true := by
    have hall : closings.all (fun before =>
        ((new "ws://far" 5000 (.new false) 0).run before).1.line.stream.closed) = true := by
      decide +kernel
    exact List.all_eq_true.mp hall before hbefore
  obtain ⟨hdeeds, -, hended⟩ := closed_is_final "ws://far" 5000 (.new false) 0 before
    [.answer (some 0), .sleep 9000] hclosed
  exact ⟨hdeeds, hended rfl⟩

end StreamCourse

end ResourceWatch
