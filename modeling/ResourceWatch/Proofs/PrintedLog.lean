import ResourceWatch.CommandLine.Session
import ResourceWatch.Proofs.LogHistory

/-! # What a session prints of a log

A session that follows the log of a pod looks at the world now and then, and may miss any of
the texts in between. Whatever it misses, it prints every line that was appended once and in
order, up to the newest line of the text it saw last. How the lines were collected into
batches does not matter, and neither does what is written elsewhere meanwhile.
-/

namespace ResourceWatch

namespace CommandLine.Session

open Text

/-- The session when it looks at a world. -/
def facing (session : Session) (world : World) : Session :=
  let registry := { session.engine.registry with world := world }
  { session with engine := { session.engine with registry := registry } }

/-- The lines that a session prints while it looks at one world after the other. -/
def printed (session : Session) : List World → List String
  | [] => []
  | world :: rest =>
    let (next, lines) := (session.facing world).observe
    lines ++ next.printed rest

variable {output : OutputFormat} {env pod : String}

/-- One look prints what was appended since the look before, and remembers the text. A log
without lines is unset, which is passed over. -/
theorem observe_logs {earlier later : List String}
    (hlines : ∀ line ∈ earlier ++ later, IsLine line.toList) {world : World}
    (hlog : world.log? env pod = Log.run none ((earlier ++ later).map .append))
    (session : Session) (houtput : session.output = output)
    (hfollowing : session.following = .logs env pod (Log.textOf earlier)) :
    (session.facing world).observe =
      ({ session.facing world with following := .logs env pod (Log.textOf (earlier ++ later)) },
        later.map (logLine output pod)) := by
  have hrecord : (world.record? .pod env pod).bind Record.log =
      if earlier ++ later = [] then none else some (Log.textOf (earlier ++ later)) :=
    hlog.trans (Log.run_none_append _)
  obtain ⟨_, _, engine⟩ := session
  subst houtput hfollowing
  simp only [observe, facing, hrecord]
  by_cases hnone : earlier ++ later = []
  · obtain ⟨rfl, rfl⟩ := List.append_eq_nil_iff.mp hnone
    rfl
  · simp only [if_neg hnone, Log.newLines_textOf hlines]

/-- Looks at worlds whose logs have ever more lines print the lines between the first of
them and the last. -/
theorem printed_logs {linesAt : Nat → List String} {worldAt : Nat → World}
    (hgrows : ∀ {earlier later}, earlier ≤ later → linesAt earlier <+: linesAt later)
    (hlines : ∀ count, ∀ line ∈ linesAt count, IsLine line.toList)
    (hlog : ∀ count, (worldAt count).log? env pod = Log.run none ((linesAt count).map .append))
    {observed : List Nat} {seen : Nat} (hobserved : (seen :: observed).Pairwise (· ≤ ·))
    (session : Session) (houtput : session.output = output)
    (hfollowing : session.following = .logs env pod (Log.textOf (linesAt seen))) :
    ∃ fresh, session.printed (observed.map worldAt) = fresh.map (logLine output pod) ∧
      linesAt seen ++ fresh = linesAt (observed.getLast?.getD seen) := by
  -- The induction is on the looks to come: what the session remembers is always the text of
  -- the lines at the look before.
  induction observed generalizing seen session with
  | nil => exact ⟨[], rfl, List.append_nil _⟩
  | cons next rest ih =>
      obtain ⟨hseen, hrest⟩ := List.pairwise_cons.mp hobserved
      obtain ⟨later, hlater⟩ := hgrows (hseen next List.mem_cons_self)
      have hstep := observe_logs (hlater ▸ hlines next) (hlater ▸ hlog next) session houtput
        hfollowing
      rw [hlater] at hstep
      let printing : Following := .logs env pod (Log.textOf (linesAt next))
      obtain ⟨fresh, hfresh, hlast⟩ :=
        ih hrest { session.facing (worldAt next) with following := printing } houtput rfl
      refine ⟨later ++ fresh, ?_, ?_⟩
      · rw [List.map_cons, printed, hstep, List.map_append]
        exact congrArg _ hfresh
      · rw [← List.append_assoc, hlater, hlast, List.getLast?_cons, Option.getD_some]

/-- The number of lines that the first of some writes append to the log of a pod. -/
def logCount (env pod : String) (writes : List Write) (first : Nat) : Nat :=
  ((writes.take first).flatMap (Write.logEvents env pod)).length

/-- Writes that come later only add changes of a log, and those of the first writes are the
first payloads. -/
theorem flatMap_logEvents_take {writes : List Write} {payloads : List String}
    (hwrites : writes.flatMap (Write.logEvents env pod) = payloads.map .append) (first : Nat) :
    (writes.take first).flatMap (Write.logEvents env pod) =
      (payloads.take (logCount env pod writes first)).map .append := by
  have hfront : (writes.take first).flatMap (Write.logEvents env pod) <+:
      payloads.map LogEvent.append := by
    rw [← hwrites]
    exact (List.take_prefix first writes).flatMap _
  rw [List.map_take]
  exact List.prefix_iff_eq_take.mp hfront

theorem logCount_le {writes : List Write} {earlier later : Nat} (horder : earlier ≤ later) :
    logCount env pod writes earlier ≤ logCount env pod writes later :=
  ((List.take_prefix_take_left horder).flatMap _).length_le

/-- A session that follows a log which starts unset prints the payloads appended to it once
and in order, up to the newest one of the text that it saw last. The payloads may be cut into
batches in any way, other writes may come in between as long as they do not remove the
record, and the session may look at the world after any of the writes. -/
theorem lines_printed_once (output : OutputFormat) {env pod : String} (engine : Engine)
    {world : World} (hunset : world.log? env pod = none) {payloads : List String}
    (hpayloads : ∀ payload ∈ payloads, IsLine payload.toList) {writes : List Write}
    (hwrites : writes.flatMap (Write.logEvents env pod) = payloads.map .append)
    (hkept : ∀ write ∈ writes, ¬write.Removes env pod) {observed : List Nat}
    (hobserved : observed.Pairwise (· ≤ ·)) :
    (Session.mk output (.logs env pod "") engine).printed
        (observed.map fun first => world.commitAll (writes.take first)) =
      (payloads.take (logCount env pod writes (observed.getLast?.getD 0))).map
        (logLine output pod) ∧
    ((world.commitAll (writes.take (observed.getLast?.getD 0))).log? env pod).getD "" =
      Log.textOf (payloads.take (logCount env pod writes (observed.getLast?.getD 0))) := by
  have hlog : ∀ first, (world.commitAll (writes.take first)).log? env pod =
      Log.run none ((payloads.take (logCount env pod writes first)).map .append) := by
    intro first
    rw [World.log?_commitAll fun write hwrite => hkept write (List.mem_of_mem_take hwrite),
      hunset, flatMap_logEvents_take hwrites]
  constructor
  · have hlines : ∀ first, ∀ line ∈ payloads.take (logCount env pod writes first),
        IsLine line.toList := fun first line hline => hpayloads line (List.mem_of_mem_take hline)
    obtain ⟨fresh, hfresh, hlast⟩ := printed_logs
      (fun horder => List.take_prefix_take_left (logCount_le horder)) hlines hlog
      (List.pairwise_cons.mpr ⟨fun _ _ => Nat.zero_le _, hobserved⟩)
      (Session.mk output (.logs env pod "") engine) rfl rfl
    rw [hfresh, ← hlast]
    rfl
  · rw [hlog, Log.run_none_append]
    split
    next hnone => rw [hnone]; rfl
    next => rfl

def servingLines : List String := ["starting", "ready", "serving"]

/-- Writes of `servingLines` in two batches, with a batch of nothing and a fetched field in
between. -/
def servingWrites : List Write :=
  [.appendLogs "prod" "web" [.append "starting", .append "ready"],
    .appendLogs "prod" "web" [], .setField .pod "prod" "web" .spec .null,
    .appendLogs "prod" "web" [.append "serving"]]

/-- A session that looks before the first batch, twice at one text and then at the last one
prints three lines. -/
theorem lines_printed_once_servingWrites :
    World.new.log? "prod" "web" = none ∧ (∀ line ∈ servingLines, IsLine line.toList) ∧
      servingWrites.flatMap (Write.logEvents "prod" "web") = servingLines.map .append ∧
      (∀ write ∈ servingWrites, ¬write.Removes "prod" "web") ∧
      [0, 1, 3, 4].Pairwise (· ≤ ·) ∧
      (Session.mk .human (.logs "prod" "web" "") (.new .default none)).printed
          ([0, 1, 3, 4].map fun first => World.new.commitAll (servingWrites.take first)) =
        ["starting", "ready", "serving"] := by
  have hunset : World.new.log? "prod" "web" = none := rfl
  have hlines : ∀ line ∈ servingLines, IsLine line.toList := by
    simp only [servingLines, IsLine]
    decide
  have hwrites : servingWrites.flatMap (Write.logEvents "prod" "web") =
      servingLines.map .append := rfl
  have hkept : ∀ write ∈ servingWrites, ¬write.Removes "prod" "web" := by
    simp [servingWrites, Write.Removes, Write.editsOf]
  have hobserved : [0, 1, 3, 4].Pairwise (· ≤ ·) := by decide
  refine ⟨hunset, hlines, hwrites, hkept, hobserved, ?_⟩
  exact (lines_printed_once .human _ hunset hlines hwrites hkept hobserved).1

end CommandLine.Session

end ResourceWatch
