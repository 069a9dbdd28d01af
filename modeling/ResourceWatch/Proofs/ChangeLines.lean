import Mathlib.Data.List.Forall2
import ResourceWatch.CommandLine.Session
import ResourceWatch.Proofs.TextsApart
import ResourceWatch.Proofs.ValueRoundTrip

/-! # What a line says of a change

The line for a reader says the type and the name of a change, whatever the name is, and the
line for a program the payload too. Changes with the same line agree in just this, so a list of
lines is as good as the changes that were written, as far as the output shows them.
-/

namespace ResourceWatch

namespace ChangeType

theorem name_injective : Function.Injective ChangeType.name := by
  intro type other hname
  cases type <;> cases other <;> first | rfl | exact absurd hname (by decide)

theorem sign_injective : Function.Injective ChangeType.sign := by
  intro type other hsign
  cases type <;> cases other <;> first | rfl | exact absurd hsign (by decide)

theorem length_sign (type : ChangeType) : type.sign.toList.length = 1 := by
  cases type <;> rfl

end ChangeType

namespace Change

theorem toList_line (change : Change) :
    change.line.toList = change.type.sign.toList ++ ' ' :: change.name.toList := by
  simp [line]

/-- Changes with the same line for a reader have the same type and name. A sign is one
character, so the name is all that stands behind the blank. -/
theorem eq_of_line_eq {change other : Change} (hline : change.line = other.line) :
    change.type = other.type ∧ change.name = other.name := by
  have hchars := congrArg String.toList hline
  rw [toList_line, toList_line] at hchars
  have hlength : change.type.sign.toList.length = other.type.sign.toList.length := by
    rw [ChangeType.length_sign, ChangeType.length_sign]
  obtain ⟨hsign, hname⟩ := List.append_inj hchars hlength
  exact ⟨ChangeType.sign_injective (String.toList_injective hsign),
    String.toList_injective (List.tail_eq_of_cons_eq hname)⟩

variable {kind : Kind} {env : String}

/-- Changes with the same line for a program have the same payload too. -/
theorem eq_of_dataLine_eq {change other : Change}
    (hline : change.dataLine kind env = other.dataLine kind env) :
    change.type = other.type ∧ change.name = other.name ∧
      change.object.payload = other.object.payload := by
  have hmembers := Json.object.inj (Json.render_injective hline)
  simp only [List.cons.injEq, Prod.mk.injEq, Json.string.injEq, true_and, and_true] at hmembers
  obtain ⟨htype, hname, hpayload⟩ := hmembers
  exact ⟨ChangeType.name_injective htype, hname, hpayload⟩

/-- What a line for a program says, read as a document. -/
def document (kind : Kind) (env : String) (change : Change) : Document :=
  .object [(some "op", .string (some change.type.name)), (some "kind", .string (some kind.name)),
    (some "env", .string (some env)), (some "name", .string (some change.name)),
    (some "object", .ofJson change.object.payload)]

/-- A line for a program is read back if the payload has no numbers that reading would round. -/
theorem ofText?_dataLine {change : Change} (hintegral : change.object.payload.Integral) :
    Document.ofText? (change.dataLine kind env) = some (change.document kind env) :=
  Document.ofText?_render ⟨trivial, trivial, trivial, trivial, hintegral, trivial⟩

end Change

namespace CommandLine

/-- What the lines of an output show of an object. -/
def shownOf (output : OutputFormat) (object : Resource) : Option Json :=
  match output with
  | .human => none
  | .json => some object.payload

/-- Whether two changes are the same as far as an output shows them. -/
structure SameShown (output : OutputFormat) (change other : Change) : Prop where
  type : change.type = other.type
  name : change.name = other.name
  object : shownOf output change.object = shownOf output other.object

theorem sameShown_of_changeLine {output : OutputFormat} {kind : Kind} {env : String}
    {change other : Change} (hline : changeLine output kind env change =
      changeLine output kind env other) : SameShown output change other := by
  cases output with
  | human =>
      obtain ⟨htype, hname⟩ := Change.eq_of_line_eq hline
      exact ⟨htype, hname, rfl⟩
  | json =>
      obtain ⟨htype, hname, hpayload⟩ := Change.eq_of_dataLine_eq hline
      exact ⟨htype, hname, congrArg some hpayload⟩

/-- Lists of changes with the same lines are the same as far as the output shows them. -/
theorem forall₂_sameShown {output : OutputFormat} {kind : Kind} {env : String}
    {changes others : List Change}
    (hlines : changes.map (changeLine output kind env) =
      others.map (changeLine output kind env)) :
    List.Forall₂ (SameShown output) changes others := by
  rw [← List.forall₂_eq_eq_eq, List.forall₂_map_left_iff, List.forall₂_map_right_iff] at hlines
  exact hlines.imp fun _ _ => sameShown_of_changeLine

end CommandLine

end ResourceWatch
