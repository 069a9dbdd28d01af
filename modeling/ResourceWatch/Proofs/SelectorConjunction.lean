import ResourceWatch.Proofs.TrimAndCut
import ResourceWatch.Store.Basic

/-! # Selectors with a comma between them

A comma joins two selectors to the selector that asks for what both of them ask for. It is read
if both are, and else the fault is that of the first one which cannot be read. Where the commas
stand is all that counts: blanks around terms and terms of blanks say nothing.
-/

namespace ResourceWatch

namespace Selector

open Text

/-- The selector that asks for what two selectors ask for. -/
def both (former latter : Selector) : Selector :=
  ⟨former.requirements ++ latter.requirements⟩

/-- Whether a selector is the conjunction of two others, for labels and for what is selected
from a store. -/
structure IsConjunction (selector former latter : Selector) : Prop where
  accepts : ∀ labels, selector.accepts labels = (former.accepts labels && latter.accepts labels)
  select : ∀ (store : Store) env name object,
    (store.select env selector).get? name = some object ↔
      (store.select env former).get? name = some object ∧
        (store.select env latter).get? name = some object
  objects : ∀ (store : Store) env name object,
    (store.select env selector).get? name = some object →
      (store.objects env).get? name = some object

/-- Two lists of terms that differ only in blanks around terms and in terms of blanks. -/
inductive Respaced : List (List Char) → List (List Char) → Prop where
  | nil : Respaced [] []
  | term {front back front' back' : List Char} {parts others : List (List Char)}
      (term : List Char) (hfront : IsGap front) (hback : IsGap back) (hfront' : IsGap front')
      (hback' : IsGap back') (rest : Respaced parts others) :
      Respaced ((front ++ term ++ back) :: parts) ((front' ++ term ++ back') :: others)
  | gapLeft {gap : List Char} {parts others : List (List Char)} (hgap : IsGap gap)
      (rest : Respaced parts others) : Respaced (gap :: parts) others
  | gapRight {gap : List Char} {parts others : List (List Char)} (hgap : IsGap gap)
      (rest : Respaced parts others) : Respaced parts (gap :: others)

/-! ## Terms -/

theorem terms_append (front back : List Char) :
    terms (front ++ ',' :: back) = terms front ++ terms back := by
  simp only [terms, splitOn_append, List.map_append, List.filter_append]

/-- The terms of both texts are the same. -/
theorem Respaced.filter_trim_eq {parts others : List (List Char)}
    (hspaces : Respaced parts others) :
    (parts.map trim).filter (fun term => !term.isEmpty) =
      (others.map trim).filter fun term => !term.isEmpty := by
  induction hspaces with
  | nil => rfl
  | term term hfront hback hfront' hback' _ ih =>
      simp only [List.map_cons, trim_of_gaps hfront hback, trim_of_gaps hfront' hback',
        List.filter_cons, ih]
  | gapLeft hgap _ ih => simpa [trim_of_isGap hgap] using ih
  | gapRight hgap _ ih => simpa [trim_of_isGap hgap] using ih

/-! ## Reading -/

theorem readTerms_append (former latter : List (List Char)) :
    readTerms (former ++ latter) =
      (do return (← readTerms former) ++ (← readTerms latter)) := by
  induction former with
  | nil =>
      rw [List.nil_append, readTerms]
      cases readTerms latter <;> rfl
  | cons term rest ih =>
      rw [List.cons_append, readTerms, readTerms, ih]
      cases readTerm term with
      | error fault => rfl
      | ok requirement =>
          cases readTerms rest with
          | error fault => rfl
          | ok more => cases readTerms latter <;> rfl

theorem parse_append_comma (front back : String) :
    parse (front ++ "," ++ back) = (do return (← parse front).both (← parse back)) := by
  have hterms : terms (front ++ "," ++ back).toList =
      terms front.toList ++ terms back.toList := by
    rw [← terms_append]
    simp
  unfold parse
  rw [hterms, readTerms_append]
  cases readTerms (terms front.toList) with
  | error fault => rfl
  | ok former => cases readTerms (terms back.toList) <;> rfl

theorem parse_of_respaced {text other : String}
    (hspaces : Respaced (splitOn ',' text.toList) (splitOn ',' other.toList)) :
    parse text = parse other := by
  rw [parse, terms, hspaces.filter_trim_eq, ← terms, ← parse]

/-! ## Selecting -/

theorem accepts_both (former latter : Selector) (labels : LabelSet) :
    (former.both latter).accepts labels = (former.accepts labels && latter.accepts labels) :=
  List.all_append

theorem isConjunction_both (former latter : Selector) :
    (former.both latter).IsConjunction former latter where
  accepts := accepts_both former latter
  select store env name object := by
    simp only [Store.select, Store.get?_objectsWhere, Option.filter_eq_some_iff, accepts_both,
      Bool.and_eq_true]
    constructor
    · rintro ⟨hobject, hformer, hlatter⟩
      exact ⟨⟨hobject, hformer⟩, hobject, hlatter⟩
    · rintro ⟨⟨hobject, hformer⟩, -, hlatter⟩
      exact ⟨hobject, hformer, hlatter⟩
  objects store env name object hselect := by
    simp only [Store.select, Store.objects, Store.get?_objectsWhere,
      Option.filter_eq_some_iff] at hselect ⊢
    exact ⟨hselect.1, trivial⟩

/-- Two texts with a comma between them are read as the conjunction of what they are read as,
if both are read. Else the fault is that of the former text, or of the latter one if the former
is read. Texts that differ in blanks around terms and in terms of blanks are read in the same
way, so that the same text is accepted and the same objects are selected. -/
theorem comma_is_conjunction (front back : String) :
    (match parse front, parse back with
      | .error fault, _ => parse (front ++ "," ++ back) = .error fault
      | .ok _, .error fault => parse (front ++ "," ++ back) = .error fault
      | .ok former, .ok latter =>
        ∃ selector, parse (front ++ "," ++ back) = .ok selector ∧
          selector.IsConjunction former latter) ∧
    ∀ text other, Respaced (splitOn ',' text.toList) (splitOn ',' other.toList) →
      parse text = parse other := by
  refine ⟨?_, fun text other => parse_of_respaced⟩
  rw [parse_append_comma]
  cases parse front with
  | error fault => rfl
  | ok former =>
      cases parse back with
      | error fault => rfl
      | ok latter => exact ⟨former.both latter, rfl, isConjunction_both former latter⟩

/-- A text in which blanks, an empty term and a term of blanks say nothing. -/
theorem comma_is_conjunction_spaced :
    Respaced (splitOn ',' "app=web,!old".toList) (splitOn ',' "\tapp=web ,, !old, ".toList) ∧
      parse "app=web,!old" = parse "\tapp=web ,, !old, " := by
  have hnone : IsGap [] := List.forall_mem_nil _
  have hblank : IsGap [' '] := List.forall_mem_singleton.mpr (by decide)
  have htab : IsGap ['\t'] := List.forall_mem_singleton.mpr (by decide)
  have hlast : Respaced [] [[' ']] := .gapRight hblank .nil
  have hsecond : Respaced ["!old".toList] [" !old".toList, [' ']] :=
    @Respaced.term [] [] [' '] [] _ _ "!old".toList hnone hnone hblank hnone hlast
  have hspaces :
      Respaced (splitOn ',' "app=web,!old".toList) (splitOn ',' "\tapp=web ,, !old, ".toList) :=
    @Respaced.term [] [] ['\t'] [' '] _ _ "app=web".toList hnone hnone htab hblank
      (.gapRight hnone hsecond)
  exact ⟨hspaces, (comma_is_conjunction "" "").2 _ _ hspaces⟩

end Selector

end ResourceWatch
