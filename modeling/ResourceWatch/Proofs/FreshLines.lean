import ResourceWatch.Proofs.LogText
import ResourceWatch.Store.Write

/-! # Which lines of a log are new

Who has seen one text of a log and sees another is shown the lines in front of the part that
is known. Only the end of a text tells what is known, so there are two ways to lose a line.
The text of another log may end with the known one in the middle of a line. And what is new is
cut off in front of the line feed behind it, so that an empty line there, or a carriage return,
reads in another way than inside of a longer text.
-/

namespace ResourceWatch

namespace Text

/-! ## Lines -/

theorem lines_of_not_mem {part : List Char} (hpart : '\n' ∉ part) :
    lines part = if part = [] then [] else [part] := by
  rw [lines, splitOn_of_not_mem hpart]
  cases part <;> simp

theorem lines_append_cons {part : List Char} (hpart : '\n' ∉ part) (rest : List Char) :
    lines (part ++ '\n' :: rest) = withoutReturn part :: lines rest := by
  obtain ⟨next, more, hsplit⟩ := List.exists_cons_of_ne_nil (splitOn_ne_nil '\n' rest)
  simp only [lines, splitOn_append_cons hpart, hsplit, List.dropLast_cons_cons, List.map_cons,
    List.getLast?_cons_cons]
  split <;> rfl

/-- Every text is a part of a line, or a line with its line feed and another text behind
it. -/
theorem lineInduction {motive : List Char → Prop}
    (part : ∀ part, '\n' ∉ part → motive part)
    (line : ∀ part rest, '\n' ∉ part → motive rest → motive (part ++ '\n' :: rest))
    (text : List Char) : motive text := by
  induction hlength : text.length using Nat.strong_induction_on generalizing text with
  | h length ih =>
      subst hlength
      by_cases hmem : '\n' ∈ text
      · obtain ⟨front, back, rfl, hfront⟩ := List.eq_append_cons_of_mem hmem
        exact line front back hfront (ih back.length (by simp; omega) back rfl)
      · exact part text hmem

/-- A text is cut into lines on both sides of a line feed. -/
theorem lines_append_lineFeed (front back : List Char) :
    lines (front ++ '\n' :: back) = lines (front ++ ['\n']) ++ lines back := by
  induction front using lineInduction with
  | part part hpart =>
      rw [lines_append_cons hpart, lines_append_cons hpart]
      rfl
  | line part rest hpart ih =>
      rw [List.append_assoc, List.cons_append, lines_append_cons hpart, ih, List.append_assoc,
        List.cons_append, lines_append_cons hpart, List.cons_append]

theorem lines_eq_nil_iff {text : List Char} : lines text = [] ↔ text = [] := by
  induction text using lineInduction with
  | part part hpart =>
      rw [lines_of_not_mem hpart]
      split
      next hnil => simp [hnil]
      next hnil => simp [hnil]
  | line part rest hpart _ => simp [lines_append_cons hpart]

theorem getLast?_append_lineFeed (front : List Char) {back : List Char} (hback : back ≠ []) :
    (front ++ '\n' :: back).getLast? = back.getLast? := by
  rw [List.append_cons, List.getLast?_append_of_ne_nil _ hback]

/-! ## Ends of texts -/

/-- Whether a text ends with a character of a line and not with a part of a line end. -/
def EndsInLine (text : List Char) : Prop := ∃ c ∈ text.getLast?, c ≠ '\n' ∧ c ≠ '\r'

theorem endsInLine_append_lineFeed (front back : List Char) :
    EndsInLine (front ++ '\n' :: back) ↔ EndsInLine back := by
  by_cases hback : back = []
  · subst hback
    simp [EndsInLine]
  · rw [EndsInLine, getLast?_append_lineFeed front hback, EndsInLine]

theorem endsInLine_of_not_mem {part : List Char} (hpart : '\n' ∉ part) (hne : part ≠ []) :
    EndsInLine part ↔ '\r' ∉ part.getLast? := by
  have hlast := List.getLast?_eq_some_getLast hne
  have hline : part.getLast hne ≠ '\n' := fun heq => hpart (heq ▸ List.getLast_mem hne)
  simp [EndsInLine, hlast, hline]

/-- A line feed at the end of a text changes its lines unless it ends with a character of a
line. -/
theorem lines_append_singleton_iff {text : List Char} :
    lines (text ++ ['\n']) = lines text ↔ EndsInLine text := by
  induction text using lineInduction with
  | part part hpart =>
      rw [lines_append_cons hpart, lines_of_not_mem hpart]
      split
      next hnil => simp [hnil, EndsInLine]
      next hne =>
        rw [endsInLine_of_not_mem hpart hne, ← withoutReturn_eq_self_iff]
        simp [lines, splitOn]
  | line part rest hpart ih =>
      rw [endsInLine_append_lineFeed, ← ih, List.append_assoc, List.cons_append,
        lines_append_cons hpart, lines_append_cons hpart, List.cons.injEq]
      exact and_iff_right rfl

theorem withoutReturn_append_return (line : List Char) :
    withoutReturn (line ++ ['\r']) = line := by
  rw [withoutReturn, beforeEnd_append, Option.getD_some]

theorem withoutReturn_append_eq_iff {part more : List Char} :
    withoutReturn (part ++ more) = part ↔
      more = ['\r'] ∨ more = [] ∧ '\r' ∉ part.getLast? := by
  constructor
  · intro heq
    by_cases hlast : '\r' ∈ (part ++ more).getLast?
    · obtain ⟨front, hfront⟩ := List.getLast?_eq_some_iff.mp hlast
      rw [hfront, withoutReturn_append_return] at heq
      subst heq
      exact .inl (List.append_cancel_left hfront)
    · rw [withoutReturn_eq_self_iff.mpr hlast, List.append_right_eq_self] at heq
      subst heq
      rw [List.append_nil] at hlast
      exact .inr ⟨rfl, hlast⟩
  · rintro (rfl | ⟨rfl, hlast⟩)
    · exact withoutReturn_append_return part
    · rw [List.append_nil]
      exact withoutReturn_eq_self_iff.mpr hlast

theorem append_lineFeed_eq_iff (part : List Char) (hend : '\n' ∉ part) (more rest : List Char) :
    more ++ '\n' :: rest = part ++ ['\n'] ↔ more = part ∧ rest = [] := by
  rw [eq_comm, List.append_cons_inj_of_notMem hend List.not_mem_nil]
  simp [eq_comm]

/-- What follows the beginning of a line adds no line only if it is the end of this line. -/
theorem lines_append_eq_iff {head tail : List Char} (hhead : head ≠ [])
    (hline : '\n' ∉ head.getLast?) (htail : tail ≠ []) :
    lines (head ++ tail) = lines head ↔
      tail = ['\r', '\n'] ∨ tail = ['\n'] ∧ '\r' ∉ head.getLast? := by
  induction head using lineInduction with
  | part part hpart =>
      rw [lines_of_not_mem hpart, if_neg hhead]
      by_cases hfeed : '\n' ∈ tail
      · obtain ⟨more, rest, rfl, hmore⟩ := List.eq_append_cons_of_mem hfeed
        have hfront : '\n' ∉ part ++ more := by simp [hpart, hmore]
        have hreturn := append_lineFeed_eq_iff ['\r'] (by decide) more rest
        have hnone := append_lineFeed_eq_iff [] (by decide) more rest
        simp only [List.singleton_append, List.nil_append] at hreturn hnone
        rw [← List.append_assoc, lines_append_cons hfront, List.cons.injEq,
          withoutReturn_append_eq_iff, lines_eq_nil_iff, hreturn, hnone, or_and_right,
          and_right_comm]
      · have hwhole : '\n' ∉ part ++ tail := by simp [hpart, hfeed]
        rw [lines_of_not_mem hwhole, if_neg (by simp [hhead])]
        refine iff_of_false (by simpa using htail) ?_
        rintro (rfl | ⟨rfl, -⟩) <;> simp at hfeed
  | line part rest hpart ih =>
      have hrest : rest ≠ [] := by
        rintro rfl
        simp at hline
      rw [getLast?_append_lineFeed part hrest] at hline ⊢
      rw [← ih hrest hline, List.append_assoc, List.cons_append, lines_append_cons hpart,
        lines_append_cons hpart, List.cons.injEq]
      exact and_iff_right rfl

end Text

namespace Log

open Text

/-- The lines of a text, the last one first. -/
def oldestFirst (text : List Char) : List String := (lines text).reverse.map String.ofList

theorem oldestFirst_eq_iff {text other : List Char} :
    oldestFirst text = oldestFirst other ↔ lines text = lines other := by
  rw [oldestFirst, oldestFirst, List.map_inj_right fun _ _ => String.ofList_inj.mp,
    List.reverse_inj]

theorem newLines_eq (earlier text : String) :
    newLines earlier text = oldestFirst (freshPart earlier.toList text.toList) := rfl

/-! ## Texts that were not appended to -/

theorem freshPart_of_not_suffix {earlier text : List Char} (hend : ¬earlier <:+ text) :
    freshPart earlier text = text := by
  unfold freshPart
  split
  · rfl
  · rw [beforeEnd_eq_none_iff.mpr hend]

theorem return_mem_getLast?_iff {head : List Char} :
    '\r' ∈ head.getLast? ↔ ['\r', '\n'] <:+ head ++ ['\n'] := by
  have hsame : ['\r', '\n'] <:+ head ++ ['\n'] ↔ ['\r'] <:+ head := by
    rw [← List.singleton_append, List.suffix_append_inj_of_length_eq rfl]
    exact and_iff_left rfl
  rw [hsame, Option.mem_def, List.getLast?_eq_some_iff]
  exact exists_congr fun front => eq_comm

/-- A text with another one at its end either comes from it by appending or has it begin in the
middle of a line. -/
theorem lineFeed_not_mem_of_restart {earlier head : String}
    (hrestart : ∀ front : String, head ++ earlier ≠ front ++ "\n" ++ earlier) :
    '\n' ∉ head.toList.getLast? := by
  intro hlast
  obtain ⟨front, hfront⟩ := List.getLast?_eq_some_iff.mp hlast
  apply hrestart (String.ofList front)
  apply String.toList_injective
  simp [hfront]

section OpenLine

variable {earlier head : String} (hearlier : earlier ≠ "") (hline : '\n' ∉ head.toList.getLast?)
include hearlier hline

/-- Where a text ends with a known one in the middle of a line, this end of it is left
out. -/
theorem newLines_append_of_open : newLines earlier (head ++ earlier) = oldestFirst head.toList := by
  have hne : earlier.toList ≠ [] := by simpa using hearlier
  have hnone : beforeEnd ['\n'] head.toList = none := by
    rw [beforeEnd_eq_none_iff]
    rintro ⟨front, hfront⟩
    simp [← hfront] at hline
  rw [newLines_eq, String.toList_append, freshPart_append hne, hnone, Option.getD_none]

/-- The end that is left out is missed unless it is no more than the end of the line. -/
theorem newLines_append_of_open_iff (hhead : head ≠ "") :
    newLines earlier (head ++ earlier) = oldestFirst (head ++ earlier).toList ↔
      earlier = "\r\n" ∨
        earlier = "\n" ∧ ¬['\r', '\n'] <:+ (head ++ earlier).toList := by
  have hreturn : earlier.toList = ['\r', '\n'] ↔ earlier = "\r\n" := by
    rw [← String.toList_inj]
    rfl
  have hfeed : earlier.toList = ['\n'] ∧ '\r' ∉ head.toList.getLast? ↔
      earlier = "\n" ∧ ¬['\r', '\n'] <:+ head.toList ++ earlier.toList := by
    rw [← String.toList_inj]
    refine and_congr_right fun heq => ?_
    rw [heq, return_mem_getLast?_iff]
  rw [newLines_append_of_open hearlier hline, oldestFirst_eq_iff, String.toList_append, eq_comm,
    lines_append_eq_iff (by simpa using hhead) hline (by simpa using hearlier), hreturn, hfeed]

end OpenLine

/-- A text that does not come from an earlier one by appending has all its lines for new
exactly if the earlier one is empty, or does not stand at its end, or is no more than the end
of its last line. In all other cases the lines are cut off where the earlier text begins. -/
theorem newLines_of_restart_iff {earlier text : String} (hne : text ≠ earlier)
    (hrestart : ∀ head : String, text ≠ head ++ "\n" ++ earlier) :
    (newLines earlier text = oldestFirst text.toList ↔
      earlier = "" ∨ ¬earlier.toList <:+ text.toList ∨ earlier = "\r\n" ∨
        earlier = "\n" ∧ ¬['\r', '\n'] <:+ text.toList) ∧
      ∀ head : String, earlier ≠ "" → text = head ++ earlier →
        newLines earlier text = oldestFirst head.toList := by
  constructor
  · by_cases hempty : earlier = ""
    · subst hempty
      exact iff_of_true rfl (.inl rfl)
    rw [or_iff_right hempty]
    by_cases hend : earlier.toList <:+ text.toList
    · rw [or_iff_right (not_not_intro hend)]
      obtain ⟨front, hfront⟩ := hend
      obtain rfl : String.ofList front ++ earlier = text := by
        apply String.toList_injective
        simp [hfront]
      have hhead : String.ofList front ≠ "" := by
        intro hnil
        rw [hnil, String.empty_append] at hne
        exact hne rfl
      exact newLines_append_of_open_iff hempty (lineFeed_not_mem_of_restart hrestart) hhead
    · rw [newLines_eq, freshPart_of_not_suffix hend]
      exact iff_of_true rfl (.inl hend)
  · rintro head hempty rfl
    exact newLines_append_of_open hempty (lineFeed_not_mem_of_restart hrestart)

/-- A line that has the earlier text in its middle is not cut off. -/
theorem newLines_of_restart_iff_inside :
    "x\nold y" ≠ "old" ∧ (∀ head : String, "x\nold y" ≠ head ++ "\n" ++ "old") ∧
      newLines "old" "x\nold y" = ["old y", "x"] := by
  have hne : "x\nold y" ≠ "old" := by decide
  have hrestart : ∀ head : String, "x\nold y" ≠ head ++ "\n" ++ "old" := by
    intro head heq
    have hlast := congrArg (fun text => text.toList.getLast?) heq
    simp at hlast
  have hend : ¬"old".toList <:+ "x\nold y".toList := by decide
  refine ⟨hne, hrestart, ?_⟩
  rw [(newLines_of_restart_iff hne hrestart).1.mpr (.inr (.inl hend))]
  rfl

/-- A new log whose only line ends with the old one is taken for a longer text, and its line
loses this end. -/
theorem newLines_cutLine :
    "xx" ≠ "x" ∧ (∀ head : String, "xx" ≠ head ++ "\n" ++ "x") ∧
      newLines "x" "xx" = ["x"] ∧ oldestFirst "xx".toList = ["xx"] := by
  refine ⟨by decide, ?_, rfl, rfl⟩
  intro head heq
  have hfeed : '\n' ∈ "xx".toList := by
    rw [heq]
    simp
  exact absurd hfeed (by decide)

/-! ## Texts that were appended to -/

theorem toList_append_line (newer older : String) :
    (newer ++ "\n" ++ older).toList = newer.toList ++ '\n' :: older.toList := by simp

theorem textOf_cons (payload : String) {rest : List String} (hrest : rest ≠ []) :
    textOf (payload :: rest) = textOf rest ++ "\n" ++ payload := by
  apply String.toList_injective
  have hone : textOf [payload] = payload := by simp [textOf]
  have happend := toList_textOf_append (List.cons_ne_nil payload []) hrest
  rw [hone] at happend
  rw [toList_append_line, ← happend]
  rfl

theorem run_some_append (stored : String) {payloads : List String} (hne : payloads ≠ []) :
    run (some stored) (payloads.map .append) = some (textOf payloads ++ "\n" ++ stored) := by
  rw [run_eq_intercalate (some stored) (by simpa using hne), pieces_map_append,
    Option.toList_some,
    String.intercalate_append_of_ne_nil (by simpa using hne) (List.cons_ne_nil stored []),
    String.intercalate_singleton, textOf]

theorem exists_run_some (stored : String) (events : List LogEvent) :
    ∃ text, run (some stored) events = some text := by
  induction events generalizing stored with
  | nil => exact ⟨stored, rfl⟩
  | cons event rest ih => exact ih _

/-- Who has seen a text finds nothing new in it. -/
theorem newLines_self (text : String) : newLines text text = [] := by
  by_cases hempty : text.toList = []
  · rw [newLines_eq, hempty]
    rfl
  · rw [newLines_eq, show freshPart text.toList text.toList = [] from freshPart_append hempty []]
    rfl

theorem endsInLine_textOf (payload : String) (rest : List String) :
    EndsInLine (textOf (payload :: rest)).toList ↔ EndsInLine payload.toList := by
  by_cases hrest : rest = []
  · subst hrest
    simp [textOf]
  · rw [textOf_cons payload hrest, toList_append_line, endsInLine_append_lineFeed]

/-- What was put in front of a known text with a line feed is new. Behind it the line feed
stays only where nothing is known. -/
theorem newLines_append_line (known newer : String) :
    newLines known (newer ++ "\n" ++ known) =
      oldestFirst (newer.toList ++ if known = "" then ['\n'] else []) := by
  rw [newLines_eq, toList_append_line]
  split
  next hnothing =>
    subst hnothing
    rfl
  next hknown =>
    have hne : known.toList ≠ [] := by simpa using hknown
    rw [List.append_cons, freshPart_append hne, beforeEnd_append, Option.getD_some,
      List.append_nil]

theorem oldestFirst_append_lineFeed (newer older : List Char) :
    oldestFirst (newer ++ '\n' :: older) = oldestFirst older ++ oldestFirst (newer ++ ['\n']) := by
  simp only [oldestFirst, lines_append_lineFeed newer older, List.reverse_append, List.map_append]

/-- Two pieces in front of a text are new lines together as they are one after the other
exactly if the newer one ends in a line. -/
theorem newLines_append_iff (stored older newer : String) :
    newLines stored (newer ++ "\n" ++ (older ++ "\n" ++ stored)) =
        newLines stored (older ++ "\n" ++ stored) ++
          newLines (older ++ "\n" ++ stored) (newer ++ "\n" ++ (older ++ "\n" ++ stored)) ↔
      EndsInLine newer.toList := by
  have hknown : older ++ "\n" ++ stored ≠ "" := by
    intro hempty
    simpa using congrArg String.toList hempty
  have hwhole : newLines stored (newer ++ "\n" ++ (older ++ "\n" ++ stored)) =
      oldestFirst
        (newer.toList ++ '\n' :: (older.toList ++ if stored = "" then ['\n'] else [])) := by
    have hpieces := newLines_append_line stored (newer ++ "\n" ++ older)
    rw [toList_append_line, List.append_assoc, List.cons_append] at hpieces
    simpa only [String.append_assoc] using hpieces
  rw [hwhole, newLines_append_line stored older, newLines_append_line _ newer, if_neg hknown,
    List.append_nil, oldestFirst_append_lineFeed, List.append_right_inj, oldestFirst_eq_iff,
    lines_append_singleton_iff]

end Log

namespace Store

/-- The log of a pod in a store, if it has one. -/
def log? (store : Store) (env pod : String) : Option String :=
  (store.record? env pod).bind Record.log

theorem log?_appendLogs (store : Store) (env pod : String) (events : List LogEvent) :
    (store.appendLogs env pod events).log? env pod = Log.run (store.log? env pod) events := by
  unfold appendLogs
  split
  next hnone =>
    rw [List.isEmpty_iff] at hnone
    subst hnone
    rfl
  next =>
    rw [log?, record?_editRecord, if_pos ⟨rfl, rfl⟩, log?]
    cases store.record? env pod <;> rfl

open Log Text

/-- What two batches of appended texts add to a log is shown the same at once and one after the
other exactly if there is nothing in the first batch, or the second one is empty or begins with
a text that ends in a line. -/
theorem newLines_appendLogs_iff {store : Store} {env pod stored : String}
    (hstored : store.log? env pod = some stored) (first second : List String) :
    ∃ middle last,
      (store.appendLogs env pod (first.map .append)).log? env pod = some middle ∧
      ((store.appendLogs env pod (first.map .append)).appendLogs env pod
        (second.map .append)).log? env pod = some last ∧
      (newLines stored last = newLines stored middle ++ newLines middle last ↔
        first = [] ∨ ∀ payload ∈ second.head?, EndsInLine payload.toList) := by
  simp only [log?_appendLogs, hstored]
  by_cases hfirst : first = []
  · subst hfirst
    obtain ⟨last, hlast⟩ := exists_run_some stored (second.map .append)
    refine ⟨stored, last, rfl, hlast, iff_of_true ?_ (.inl rfl)⟩
    rw [newLines_self, List.nil_append]
  rw [run_some_append stored hfirst]
  cases second with
  | nil =>
      refine ⟨_, _, rfl, rfl, iff_of_true ?_ (.inr (by simp))⟩
      rw [newLines_self, List.append_nil]
  | cons payload rest =>
      refine ⟨_, _, rfl, run_some_append _ (List.cons_ne_nil payload rest), ?_⟩
      rw [newLines_append_iff, endsInLine_textOf, or_iff_right hfirst]
      simp

/-- A store in which the log of one pod has one line. -/
def oneLineStore : Store := (Store.new .pod).appendLogs "prod" "web" [.append "A"]

/-- Empty texts in the first batch and line feeds behind the first text of the second one do no
harm. -/
theorem newLines_appendLogs_iff_emptyFirst :
    oneLineStore.log? "prod" "web" = some "A" ∧
      newLines "A" "D\n\nC\nB\n\nA" =
        newLines "A" "B\n\nA" ++ newLines "B\n\nA" "D\n\nC\nB\n\nA" := by
  have hstored : oneLineStore.log? "prod" "web" = some "A" := rfl
  obtain ⟨middle, last, hmiddle, hlast, hlaw⟩ :=
    newLines_appendLogs_iff hstored ["", "B"] ["C", "D\n"]
  obtain rfl : "B\n\nA" = middle := Option.some.inj hmiddle
  obtain rfl : "D\n\nC\nB\n\nA" = last := Option.some.inj hlast
  have hline : ∀ payload ∈ ["C", "D\n"].head?, EndsInLine payload.toList := by
    rintro payload ⟨⟩
    exact ⟨'C', rfl, by decide, by decide⟩
  exact ⟨hstored, hlaw.mpr (.inr hline)⟩

/-- An empty text appended to a log shows no line, but it does together with the text before
it. -/
theorem newLines_appendLogs_emptyLine :
    (oneLineStore.appendLogs "prod" "web" [.append "B"]).log? "prod" "web" = some "B\nA" ∧
      ((oneLineStore.appendLogs "prod" "web" [.append "B"]).appendLogs "prod" "web"
        [.append ""]).log? "prod" "web" = some "\nB\nA" ∧
      newLines "A" "\nB\nA" = ["B", ""] ∧ newLines "A" "B\nA" = ["B"] ∧
      newLines "B\nA" "\nB\nA" = [] := by
  decide +kernel

end Store

end ResourceWatch
