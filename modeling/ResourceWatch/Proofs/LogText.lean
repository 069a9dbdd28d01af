import Mathlib.Data.List.Induction
import Mathlib.Data.List.Infix
import ResourceWatch.Log

/-! # The text of a log and its lines

A log is one text, made of the texts since its last start with the newest in front. Who knows
the text of the first lines of a log and sees a later one finds the lines in between: they stand
in front of what is known, and cutting them at the line feeds and turning them round gives them
back. This needs that a line is not empty and has neither a line feed nor a carriage return in
it.
-/

namespace ResourceWatch

namespace Text

theorem beforeEnd_eq_some_iff {pattern text head : List Char} :
    beforeEnd pattern text = some head ↔ head ++ pattern = text :=
  List.isSuffixOf?_eq_some_iff_append_eq

theorem beforeEnd_eq_none_iff {pattern text : List Char} :
    beforeEnd pattern text = none ↔ ¬pattern <:+ text := by
  rw [Option.eq_none_iff_forall_ne_some]
  constructor
  · rintro hnone ⟨head, hhead⟩
    exact hnone head (beforeEnd_eq_some_iff.mpr hhead)
  · intro hend head hhead
    exact hend ⟨head, beforeEnd_eq_some_iff.mp hhead⟩

theorem beforeEnd_append (head pattern : List Char) :
    beforeEnd pattern (head ++ pattern) = some head := beforeEnd_eq_some_iff.mpr rfl

/-- Only a carriage return at the end of a line is taken off. -/
theorem withoutReturn_eq_self_iff {line : List Char} :
    withoutReturn line = line ↔ '\r' ∉ line.getLast? := by
  unfold withoutReturn
  cases hreturn : beforeEnd ['\r'] line with
  | none =>
    refine iff_of_true rfl fun hlast => ?_
    obtain ⟨front, hfront⟩ := List.getLast?_eq_some_iff.mp hlast
    rw [hfront, beforeEnd_append] at hreturn
    cases hreturn
  | some head =>
    rw [beforeEnd_eq_some_iff] at hreturn
    subst hreturn
    simp

theorem withoutReturn_of_not_mem {line : List Char} (hline : '\r' ∉ line) :
    withoutReturn line = line :=
  withoutReturn_eq_self_iff.mpr (mt List.mem_of_mem_getLast? hline)

/-- Whether characters can stand as one line: there are some, and none of them ends a
line. -/
def IsLine (line : List Char) : Prop := line ≠ [] ∧ '\n' ∉ line ∧ '\r' ∉ line

/-- The lines of joined lines are these lines. -/
theorem lines_joinWith {parts : List (List Char)} (hparts : ∀ part ∈ parts, IsLine part) :
    lines (joinWith '\n' parts) = parts := by
  by_cases hnil : parts = []
  · subst hnil
    rfl
  have hsplit : splitOn '\n' (joinWith '\n' parts) = parts :=
    splitOn_joinWith hnil fun part hpart => (hparts part hpart).2.1
  have hended : parts.dropLast.map withoutReturn = parts.dropLast := by
    conv_rhs => rw [← List.map_id parts.dropLast]
    apply List.map_congr_left
    intro part hpart
    exact withoutReturn_of_not_mem (hparts part (List.dropLast_subset _ hpart)).2.2
  have hlast : parts.getLast? = some (parts.getLast hnil) := List.getLast?_eq_some_getLast hnil
  have hclean := (hparts _ (List.getLast_mem hnil)).1
  simp only [lines, hsplit, hended, hlast]
  exact List.dropLast_append_getLast hnil

end Text

namespace LogEvent

/-- The text that a change brings. -/
def text : LogEvent → String
  | start text | append text => text

def isAppend : LogEvent → Bool
  | start _ => false
  | append _ => true

/-- The text of a start. -/
def startText? : LogEvent → Option String
  | start text => some text
  | append _ => none

end LogEvent

namespace Log

open Text

/-- The text of a log that lines were appended to, one after the other. -/
def textOf (lines : List String) : String := "\n".intercalate lines.reverse

theorem intercalate_eq_joinWith (separator : Char) (parts : List (List Char)) :
    [separator].intercalate parts = joinWith separator parts := by
  induction parts with
  | nil => rfl
  | cons part rest ih =>
    cases rest with
    | nil => simp [joinWith]
    | cons next more =>
      rw [List.intercalate_cons_cons, ih, joinWith_cons_cons, List.append_assoc,
        List.singleton_append]

theorem toList_textOf (lines : List String) :
    (textOf lines).toList = joinWith '\n' (lines.reverse.map String.toList) := by
  rw [textOf, String.toList_intercalate]
  exact intercalate_eq_joinWith '\n' _

/-- Later lines stand in front of the earlier ones. -/
theorem toList_textOf_append {earlier later : List String} (hearlier : earlier ≠ [])
    (hlater : later ≠ []) :
    (textOf (earlier ++ later)).toList =
      (textOf later).toList ++ '\n' :: (textOf earlier).toList := by
  simp only [toList_textOf, List.reverse_append, List.map_append]
  exact joinWith_append '\n' (by simpa using hlater) (by simpa using hearlier)

theorem run_append (log : Option String) (events later : List LogEvent) :
    run log (events ++ later) = run (run log events) later := List.foldl_append

/-- The texts appended after the last start, newest first. -/
def appended (events : List LogEvent) : List String :=
  (events.reverse.takeWhile LogEvent.isAppend).map LogEvent.text

/-- The text of the last start. -/
def lastStart? (events : List LogEvent) : Option String :=
  events.reverse.findSome? LogEvent.startText?

/-- The texts that a log is made of after some changes, in their order: those appended after the
last start, and the one they were appended to. -/
def pieces (previous : Option String) (events : List LogEvent) : List String :=
  appended events ++ ((lastStart? events).or previous).toList

theorem pieces_append_start (previous : Option String) (events : List LogEvent) (text : String) :
    pieces previous (events ++ [.start text]) = [text] := by
  simp [pieces, appended, lastStart?, List.findSome?_cons, LogEvent.isAppend,
    LogEvent.startText?]

theorem pieces_append_append (previous : Option String) (events : List LogEvent)
    (text : String) :
    pieces previous (events ++ [.append text]) = text :: pieces previous events := by
  simp [pieces, appended, lastStart?, List.takeWhile_cons, List.findSome?_cons,
    LogEvent.isAppend, LogEvent.startText?, LogEvent.text]

theorem pieces_ne_nil (previous : Option String) {events : List LogEvent} (hne : events ≠ []) :
    pieces previous events ≠ [] := by
  rw [← List.dropLast_append_getLast hne]
  cases events.getLast hne with
  | start text => simp [pieces_append_start]
  | append text => simp [pieces_append_append]

/-- After some changes a log is its texts with line feeds between them. -/
theorem run_eq_intercalate (previous : Option String) {events : List LogEvent}
    (hne : events ≠ []) :
    run previous events = some ("\n".intercalate (pieces previous events)) := by
  induction events using List.reverseRecOn with
  | nil => exact absurd rfl hne
  | append_singleton earlier event ih =>
      have hstep : run previous (earlier ++ [event]) =
          some (step (run previous earlier) event) := run_append previous earlier [event]
      rw [hstep]
      cases event with
      | start text => rw [pieces_append_start, String.intercalate_singleton, step]
      | append text =>
          rw [pieces_append_append]
          by_cases hearlier : earlier = []
          · subst hearlier
            cases previous with
            | none => simp [run, step, pieces, appended, lastStart?]
            | some stored => simp [run, step, pieces, appended, lastStart?]
          · rw [ih hearlier, step,
              String.intercalate_cons_of_ne_nil (pieces_ne_nil previous hearlier)]

/-- Texts that are only appended stand newest first in front of the former log. -/
theorem pieces_map_append (previous : Option String) (lines : List String) :
    pieces previous (lines.map .append) = lines.reverse ++ previous.toList := by
  induction lines using List.reverseRecOn with
  | nil => rfl
  | append_singleton earlier line ih =>
      rw [List.map_append, List.map_singleton, pieces_append_append, ih, List.reverse_append,
        List.reverse_singleton, List.append_assoc, List.singleton_append]

/-- Appending lines to a log that was never set leaves it unset if there are none, and
their text otherwise. -/
theorem run_none_append (lines : List String) :
    run none (lines.map .append) = if lines = [] then none else some (textOf lines) := by
  split
  next hnone =>
    subst hnone
    rfl
  next hne =>
    rw [run_eq_intercalate none (by simpa using hne), pieces_map_append, Option.toList_none,
      List.append_nil, textOf]

/-- A text of some lines is empty only if there are none. -/
theorem toList_textOf_ne_nil {lines : List String} (hlines : ∀ line ∈ lines, IsLine line.toList)
    (hne : lines ≠ []) : (textOf lines).toList ≠ [] := by
  rw [toList_textOf]
  obtain ⟨first, rest, hreverse⟩ := List.exists_cons_of_ne_nil (mt List.reverse_eq_nil_iff.mp hne)
  have hfirst : IsLine first.toList := by
    apply hlines
    rw [← List.mem_reverse, hreverse]
    exact List.mem_cons_self
  rw [hreverse, List.map_cons]
  cases rest with
  | nil => exact hfirst.1
  | cons next more => simp [joinWith]

theorem lines_textOf {lines : List String} (hlines : ∀ line ∈ lines, IsLine line.toList) :
    (Text.lines (textOf lines).toList).reverse.map String.ofList = lines := by
  rw [toList_textOf, lines_joinWith]
  · simp
  · simpa using hlines

/-- In front of what is known one line feed is taken off. -/
theorem freshPart_append {earlier : List Char} (hearlier : earlier ≠ []) (head : List Char) :
    freshPart earlier (head ++ earlier) = (beforeEnd ['\n'] head).getD head := by
  have hempty : earlier.isEmpty = false := by simpa using hearlier
  rw [freshPart, hempty, if_neg Bool.false_ne_true, beforeEnd_append]

/-- What a later text has in front of an earlier one is the text of the lines in
between. -/
theorem freshPart_textOf {earlier later : List String}
    (hearlier : ∀ line ∈ earlier, IsLine line.toList) :
    freshPart (textOf earlier).toList (textOf (earlier ++ later)).toList =
      (textOf later).toList := by
  by_cases hnone : earlier = []
  · subst hnone
    rfl
  have hne := toList_textOf_ne_nil hearlier hnone
  by_cases hlater : later = []
  · subst hlater
    rw [List.append_nil]
    exact freshPart_append hne []
  · rw [toList_textOf_append hnone hlater, List.append_cons, freshPart_append hne,
      beforeEnd_append, Option.getD_some]

/-- Who has seen the text of some lines and sees a later one finds the lines in between,
oldest first. -/
theorem newLines_textOf {earlier later : List String}
    (hlines : ∀ line ∈ earlier ++ later, IsLine line.toList) :
    newLines (textOf earlier) (textOf (earlier ++ later)) = later := by
  obtain ⟨hearlier, hlater⟩ := List.forall_mem_append.mp hlines
  rw [newLines, freshPart_textOf hearlier, lines_textOf hlater]

end Log

end ResourceWatch
