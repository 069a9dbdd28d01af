import ResourceWatch.Proofs.ByteOrder
import ResourceWatch.Proofs.ChangeLines
import ResourceWatch.Proofs.PrintedLog
import ResourceWatch.Proofs.ValueEquality

/-! # Replaying what a session watches

The changes between two views turn the earlier one into the later one, name each change once
and in the order of the names, and say nothing about a name whose object stayed the same. A
session that watches prints a line for each change between the views that it happens to see.
Whoever reads these lines and follows them from nothing holds the view that the session saw
last, however many views in between it missed.
-/

namespace ResourceWatch

/-! ## Patching -/

namespace Change

/-- The object that a change leaves under its name. -/
def left? (change : Change) : Option Resource :=
  match change.type with
  | .added | .modified => some change.object
  | .deleted => none

/-- A view after a change of it. -/
def patch (view : View) (change : Change) : View :=
  match change.type with
  | .added | .modified => view.insert change.name change.object
  | .deleted => view.erase change.name

/-- Whether a change tells what happened to its name between two views. Only a payload that
differs is a modification, and a deletion shows the object that is gone. -/
def Describes (earlier later : View) (change : Change) : Prop :=
  match change.type with
  | .added => earlier.get? change.name = none ∧ later.get? change.name = some change.object
  | .modified =>
    later.get? change.name = some change.object ∧
      ∃ former, earlier.get? change.name = some former ∧
        (former.payload == change.object.payload) = false
  | .deleted => earlier.get? change.name = some change.object ∧ later.get? change.name = none

theorem get?_patch (view : View) (change : Change) (name : String) :
    (patch view change).get? name =
      if name = change.name then change.left? else view.get? name := by
  unfold patch left?
  cases change.type <;>
    simp only [OrderedMap.get?_insert, OrderedMap.get?_erase, Std.LawfulEqCmp.compare_eq_iff_eq]

end Change

namespace View

/-- A view after a list of changes. -/
def patch (view : View) (changes : List Change) : View := changes.foldl Change.patch view

/-- Whether two views have the same names, with equal payloads. -/
def Alike (view other : View) : Prop :=
  ∀ name, ((view.get? name).map Resource.payload == (other.get? name).map Resource.payload) = true

theorem Alike.refl (view : View) : view.Alike view := fun _ => BEq.rfl

/-- The changes from a view to the first of some views, and from each of them to the
next. -/
def changesAlong (shown : View) : List View → List Change
  | [] => []
  | next :: rest => shown.changes next ++ next.changesAlong rest

theorem patch_append (view : View) (changes more : List Change) :
    view.patch (changes ++ more) = (view.patch changes).patch more :=
  List.foldl_append

theorem get?_patch_of_not_mem {changes : List Change} {name : String}
    (hchanges : ∀ change ∈ changes, change.name ≠ name) (view : View) :
    (view.patch changes).get? name = view.get? name := by
  induction changes generalizing view with
  | nil => rfl
  | cons change rest ih =>
      obtain ⟨hchange, hrest⟩ := List.forall_mem_cons.mp hchanges
      rw [patch, List.foldl_cons, ← patch, ih hrest, Change.get?_patch, if_neg hchange.symm]

/-- The only change of a name decides what the name is left with. -/
theorem get?_patch_of_mem {changes : List Change}
    (hdistinct : changes.Pairwise fun a b => a.name ≠ b.name) {change : Change}
    (hchange : change ∈ changes) (view : View) :
    (view.patch changes).get? change.name = change.left? := by
  induction changes generalizing view with
  | nil => exact absurd hchange List.not_mem_nil
  | cons first rest ih =>
      obtain ⟨hfirst, hrest⟩ := List.pairwise_cons.mp hdistinct
      rw [patch, List.foldl_cons, ← patch]
      rcases List.mem_cons.mp hchange with rfl | hlater
      · rw [get?_patch_of_not_mem fun other hother => (hfirst other hother).symm,
          Change.get?_patch, if_pos rfl]
      · exact ih hrest hlater _

end View

/-! ## The changes between two views -/

namespace Change

theorem name_of_between? {name : String} {former latter : Option Resource} {change : Change}
    (hchange : between? name former latter = some change) : change.name = name := by
  cases former <;> cases latter <;> grind [between?]

theorem left?_of_between? {name : String} {former latter : Option Resource} {change : Change}
    (hchange : between? name former latter = some change) : change.left? = latter := by
  cases former <;> cases latter <;> grind [between?, left?]

theorem payload_beq_iff (former latter : Option Resource) :
    (former.map Resource.payload == latter.map Resource.payload) = true ↔
      former.map (fun object => object.payload.unsigned) =
        latter.map fun object => object.payload.unsigned := by
  cases former <;> cases latter <;> simp [Json.beq_iff_unsigned_eq]

/-- No change is one in which the payload, if there is any, stays the same. -/
theorem between?_eq_none_iff (name : String) (former latter : Option Resource) :
    between? name former latter = none ↔
      (former.map Resource.payload == latter.map Resource.payload) = true := by
  cases former <;> cases latter <;> simp [between?]

theorem describes_of_between? {earlier later : View} {name : String} {change : Change}
    (hchange : between? name (earlier.get? name) (later.get? name) = some change) :
    change.Describes earlier later := by
  cases hformer : earlier.get? name with
  | none =>
      cases hlatter : later.get? name with
      | none => simp [hformer, hlatter, between?] at hchange
      | some object =>
          rw [hformer, hlatter, between?] at hchange
          obtain rfl := Option.some.inj hchange
          exact ⟨hformer, hlatter⟩
  | some former =>
      cases hlatter : later.get? name with
      | none =>
          rw [hformer, hlatter, between?] at hchange
          obtain rfl := Option.some.inj hchange
          exact ⟨hformer, hlatter⟩
      | some object =>
          rw [hformer, hlatter, between?] at hchange
          split at hchange
          next => cases hchange
          next hpayload =>
            obtain rfl := Option.some.inj hchange
            exact ⟨hlatter, former, hformer, Bool.not_eq_true _ ▸ hpayload⟩

end Change

namespace View

variable {earlier later : View}

theorem mem_changes_of_between? {name : String} {change : Change}
    (hchange : Change.between? name (earlier.get? name) (later.get? name) = some change) :
    change ∈ earlier.changes later := by
  rw [changes, List.mem_filterMap]
  refine ⟨name, ?_, hchange⟩
  -- A name that neither view has would not have changed.
  rw [allNames, OrderedMap.mem_keys_ofList, List.map_append, List.mem_append]
  by_contra hnames
  obtain ⟨hearlier, hlater⟩ := not_or.mp hnames
  have hformer : earlier.get? name = none :=
    Option.not_isSome_iff_eq_none.mp (mt (earlier.mem_keys_iff name).mpr hearlier)
  have hlatter : later.get? name = none :=
    Option.not_isSome_iff_eq_none.mp (mt (later.mem_keys_iff name).mpr hlater)
  simp [hformer, hlatter, Change.between?] at hchange

theorem between?_of_mem_changes {change : Change} (hchange : change ∈ earlier.changes later) :
    Change.between? change.name (earlier.get? change.name) (later.get? change.name) =
      some change := by
  obtain ⟨name, -, hbetween⟩ := List.mem_filterMap.mp hchange
  obtain rfl := Change.name_of_between? hbetween
  exact hbetween

theorem changes_ascending (earlier later : View) :
    (earlier.changes later).Pairwise fun a b => compare a.name b.name = .lt := by
  apply List.Pairwise.filterMap _ _ (OrderedMap.keys_ascending _)
  intro name other hlt change hchange next hnext
  rwa [Change.name_of_between? hchange, Change.name_of_between? hnext]

theorem changes_eq_nil_iff : earlier.changes later = [] ↔ earlier.Alike later := by
  constructor
  · intro hnil name
    rw [← Change.between?_eq_none_iff name, Option.eq_none_iff_forall_ne_some]
    intro change hchange
    exact absurd (mem_changes_of_between? hchange) (hnil ▸ List.not_mem_nil)
  · intro halike
    rw [List.eq_nil_iff_forall_not_mem]
    intro change hchange
    have hnone := (Change.between?_eq_none_iff change.name _ _).mpr (halike change.name)
    rw [between?_of_mem_changes hchange] at hnone
    cases hnone

/-- The changes between two views, made to a view like the earlier one, give one like the
later one. -/
theorem alike_patch_changes {view : View} (halike : view.Alike earlier) (later : View) :
    (view.patch (earlier.changes later)).Alike later := by
  intro name
  cases hbetween : Change.between? name (earlier.get? name) (later.get? name) with
  | none =>
      have hname : ∀ change ∈ earlier.changes later, change.name ≠ name := by
        rintro change hchange rfl
        rw [between?_of_mem_changes hchange] at hbetween
        cases hbetween
      rw [get?_patch_of_not_mem hname]
      have hkept := (Change.between?_eq_none_iff name _ _).mp hbetween
      have hname := halike name
      rw [Change.payload_beq_iff] at hkept hname ⊢
      exact hname.trans hkept
  | some change =>
      have hdistinct : (earlier.changes later).Pairwise fun a b => a.name ≠ b.name := by
        apply (changes_ascending earlier later).imp
        rintro a b hlt hname
        simp [hname] at hlt
      obtain rfl := Change.name_of_between? hbetween
      rw [get?_patch_of_mem hdistinct (mem_changes_of_between? hbetween),
        Change.left?_of_between? hbetween]
      exact BEq.rfl

theorem alike_patch_changesAlong {view shown : View} (halike : view.Alike shown)
    (views : List View) :
    (view.patch (shown.changesAlong views)).Alike (views.getLast?.getD shown) := by
  induction views generalizing view shown with
  | nil => exact halike
  | cons next rest ih =>
      rw [changesAlong, patch_append, List.getLast?_cons, Option.getD_some]
      exact ih (alike_patch_changes halike next)

end View

/-! ## Sessions that watch -/

/-- A view has the objects of the records that have one, as far as they are selected. -/
theorem Registry.get?_view (registry : Registry) (kind : Kind) (env : String)
    (selector : Option Selector) (name : String) :
    (registry.view kind env selector).get? name =
      ((registry.world.record? kind env name).bind Record.object).filter fun object =>
        selector.all fun selector => selector.accepts object.labels := by
  unfold Registry.view World.record?
  cases registry.world.store? kind with
  | none => cases selector <;> rfl
  | some store => cases selector <;> exact store.get?_objectsWhere env name _

/-- The view that is read from a world through the registry of an engine. -/
def Engine.viewAt (engine : Engine) (kind : Kind) (env : String) (selector : Option Selector)
    (world : World) : View :=
  { engine.registry with world := world }.view kind env selector

namespace CommandLine.Session

/-- The changes that a session reports which watches from its start and sees one world after
the other. -/
def reported (engine : Engine) (kind : Kind) (env : String) (selector : Option Selector)
    (worlds : List World) : List Change :=
  View.changesAlong .empty (worlds.map (engine.viewAt kind env selector))

/-- A session that watches prints the lines of the changes between the views that it sees. -/
theorem printed_watch (output : OutputFormat) (kind : Kind) (env : String)
    (selector : Option Selector) (shown : View) (engine : Engine) (worlds : List World) :
    (Session.mk output (.watch kind env selector shown) engine).printed worlds =
      (shown.changesAlong (worlds.map (engine.viewAt kind env selector))).map
        (changeLine output kind env) := by
  induction worlds generalizing shown engine with
  | nil => rfl
  | cons world rest ih =>
      rw [List.map_cons, View.changesAlong, List.map_append]
      exact congrArg _ (ih _ _)

/-! ## Replaying lines -/

/-- Whether two views are the same as far as the lines of an output tell: a reader is told the
names, and a program the payloads too. -/
def AlikeIn : OutputFormat → View → View → Prop
  | .human, view, other => ∀ name, (view.get? name).isSome = (other.get? name).isSome
  | .json, view, other => view.Alike other

/-- Whether a view is what replaying some lines from nothing can give: that of changes which
have these lines. -/
def Replays (output : OutputFormat) (kind : Kind) (env : String) (lines : List String)
    (replayed : View) : Prop :=
  ∃ told : List Change, told.map (changeLine output kind env) = lines ∧
    View.patch .empty told = replayed

/-- Changes that are shown as the same lead from views that are shown as the same to views
that are. -/
theorem map_shownOf_patch {output : OutputFormat} {changes others : List Change}
    (hchanges : List.Forall₂ (SameShown output) changes others) {view other : View}
    (hviews : ∀ name, (view.get? name).map (shownOf output) =
      (other.get? name).map (shownOf output)) (name : String) :
    ((view.patch changes).get? name).map (shownOf output) =
      ((other.patch others).get? name).map (shownOf output) := by
  induction hchanges generalizing view other with
  | nil => exact hviews name
  | @cons change next _ _ hshown _ ih =>
      apply ih
      intro name
      have hleft : change.left?.map (shownOf output) = next.left?.map (shownOf output) := by
        unfold Change.left?
        rw [hshown.type]
        cases next.type <;> simp [hshown.object]
      rw [Change.get?_patch, Change.get?_patch, hshown.name]
      split
      next => exact hleft
      next => exact hviews name

theorem alikeIn_of_map_shownOf {output : OutputFormat} {view other last : View}
    (hshown : ∀ name, (view.get? name).map (shownOf output) =
      (other.get? name).map (shownOf output)) (halike : other.Alike last) :
    AlikeIn output view last := by
  cases output with
  | human =>
      intro name
      have hviews := congrArg Option.isSome (hshown name)
      have hlast := congrArg Option.isSome ((Change.payload_beq_iff _ _).mp (halike name))
      rw [Option.isSome_map, Option.isSome_map] at hviews hlast
      exact hviews.trans hlast
  | json =>
      intro name
      have hpayload : (view.get? name).map Resource.payload =
          (other.get? name).map Resource.payload := by
        have hsome := hshown name
        cases hview : view.get? name <;> cases hother : other.get? name <;>
          simp_all [shownOf]
      rw [hpayload]
      exact halike name

/-- The changes between any two views lead from the earlier one to the later one, ascend by
the bytes of their names, and tell what happened to them. There are none exactly if the views
are alike. So whatever worlds a session that watches happens to see, the lines that it prints,
replayed from nothing, lead to the last view that it saw, which has the selected objects of the
last world. -/
theorem watched_changes_replay :
    (∀ earlier later : View,
      (earlier.patch (earlier.changes later)).Alike later ∧
      ((earlier.changes later).Pairwise fun a b => Text.bytes a.name < Text.bytes b.name) ∧
      (∀ change ∈ earlier.changes later, change.Describes earlier later) ∧
      (earlier.changes later = [] ↔ earlier.Alike later)) ∧
    ∀ (output : OutputFormat) (kind : Kind) (env : String) (selector : Option Selector)
      (engine : Engine) (worlds : List World),
      let lines := (Session.mk output (.watch kind env selector .empty) engine).printed worlds
      let last := engine.viewAt kind env selector (worlds.getLast?.getD .new)
      (lines = (reported engine kind env selector worlds).map (changeLine output kind env) ∧
        (View.patch .empty (reported engine kind env selector worlds)).Alike last) ∧
      (∀ replayed, Replays output kind env lines replayed → AlikeIn output replayed last) ∧
      ∀ world name, (engine.viewAt kind env selector world).get? name =
        ((world.record? kind env name).bind Record.object).filter fun object =>
          selector.all fun selector => selector.accepts object.labels := by
  constructor
  · intro earlier later
    refine ⟨View.alike_patch_changes (.refl earlier) later, ?_, ?_, View.changes_eq_nil_iff⟩
    · exact (View.changes_ascending earlier later).imp Text.bytes_lt_of_compare_eq_lt
    · intro change hchange
      exact Change.describes_of_between? (View.between?_of_mem_changes hchange)
  · intro output kind env selector engine worlds lines last
    have hprinted : lines =
        (reported engine kind env selector worlds).map (changeLine output kind env) :=
      printed_watch output kind env selector .empty engine worlds
    have hreported : (View.patch .empty (reported engine kind env selector worlds)).Alike last := by
      have hreplay := View.alike_patch_changesAlong (.refl .empty)
        (worlds.map (engine.viewAt kind env selector))
      have hnew : engine.viewAt kind env selector .new = .empty := by cases selector <;> rfl
      rw [List.getLast?_map, ← hnew, Option.getD_map, hnew] at hreplay
      exact hreplay
    refine ⟨⟨hprinted, hreported⟩, ?_, ?_⟩
    · rintro replayed ⟨told, htold, rfl⟩
      have hsame := forall₂_sameShown (htold.trans hprinted)
      exact alikeIn_of_map_shownOf (map_shownOf_patch hsame fun _ => rfl) hreported
    · exact fun world name => Registry.get?_view _ kind env selector name

/-- Two looks at the pods of an environment. Between them one pod starts and one is deleted. -/
def rollout : List World :=
  let first := World.new.commit (.apply .pod "prod"
    (.init [nameAndPhase "b" "Running", nameAndPhase "a" "Pending"]))
  [first, first.commitAll [.apply .pod "prod" (.modified (nameAndPhase "a" "Running")),
    .apply .pod "prod" (.deleted (nameOnly "b"))]]

def rolloutLines : List String :=
  ["\x7b\"op\":\"added\",\"kind\":\"pod\",\"env\":\"prod\",\"name\":\"a\"," ++
      "\"object\":\x7b\"name\":\"a\",\"phase\":\"Pending\"\x7d\x7d",
    "\x7b\"op\":\"added\",\"kind\":\"pod\",\"env\":\"prod\",\"name\":\"b\"," ++
      "\"object\":\x7b\"name\":\"b\",\"phase\":\"Running\"\x7d\x7d",
    "\x7b\"op\":\"modified\",\"kind\":\"pod\",\"env\":\"prod\",\"name\":\"a\"," ++
      "\"object\":\x7b\"name\":\"a\",\"phase\":\"Running\"\x7d\x7d",
    "\x7b\"op\":\"deleted\",\"kind\":\"pod\",\"env\":\"prod\",\"name\":\"b\"," ++
      "\"object\":\x7b\"name\":\"b\",\"phase\":\"Running\"\x7d\x7d"]

/-- The changes as which `rolloutLines` are read. -/
def rolloutChanges : List Change :=
  [⟨.added, "a", ⟨.pod, nameAndPhase "a" "Pending"⟩⟩,
    ⟨.added, "b", ⟨.pod, nameAndPhase "b" "Running"⟩⟩,
    ⟨.modified, "a", ⟨.pod, nameAndPhase "a" "Running"⟩⟩,
    ⟨.deleted, "b", ⟨.pod, nameAndPhase "b" "Running"⟩⟩]

/-- The lines of both outputs, what those for a program say, and the view to which they lead. -/
theorem watched_changes_replay_rollout :
    let engine : Engine := .new .default none
    let session (output : OutputFormat) : Session :=
      ⟨output, .watch .pod "prod" none .empty, engine⟩
    (session .human).printed rollout = ["+ a", "+ b", "~ a", "- b"] ∧
      (session .json).printed rollout = rolloutLines ∧
      rolloutChanges.map (changeLine .json .pod "prod") = rolloutLines ∧
      rolloutLines.map Document.ofText? =
        rolloutChanges.map (fun change => some (change.document .pod "prod")) ∧
      (View.patch .empty rolloutChanges).keys = ["a"] ∧
      (View.patch .empty rolloutChanges).Alike
        (engine.viewAt .pod "prod" none (rollout.getLast?.getD .new)) := by
  intro engine session
  have hhuman : (session .human).printed rollout = ["+ a", "+ b", "~ a", "- b"] := by
    decide +kernel
  have hjson : (session .json).printed rollout = rolloutLines := by decide +kernel
  have htold : rolloutChanges.map (changeLine .json .pod "prod") = rolloutLines := by
    decide +kernel
  have hread : rolloutLines.map Document.ofText? =
      rolloutChanges.map (fun change => some (change.document .pod "prod")) := by
    rw [← htold, List.map_map]
    apply List.map_congr_left
    intro change hchange
    apply Change.ofText?_dataLine
    simp only [rolloutChanges, List.mem_cons, List.not_mem_nil, or_false] at hchange
    rcases hchange with rfl | rfl | rfl | rfl <;> exact ⟨trivial, trivial, trivial⟩
  obtain ⟨-, hreplays, -⟩ := watched_changes_replay.2 .json .pod "prod" none engine rollout
  have hreplayed := hreplays _ ⟨rolloutChanges, htold.trans hjson.symm, rfl⟩
  exact ⟨hhuman, hjson, htold, hread, rfl, hreplayed⟩

end CommandLine.Session

end ResourceWatch
