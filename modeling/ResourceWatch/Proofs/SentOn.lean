import ResourceWatch.Proofs.FrameMembers
import ResourceWatch.Proofs.FrameRoundTrip

/-! # Events that were read are sent on

An event that was read can be written and is read again as the same event, whatever the form in
which it came. The one exception is a snapshot that came as a lone object as deep as an object
can be. It is written as a list, and there is no room for the level that the list adds.
-/

namespace ResourceWatch

theorem Document.ne_null_of_value? {document : Document} {value : Json}
    (hvalue : document.value? = some value) (hnull : document ≠ .null) : value ≠ .null := by
  rintro rfl
  cases document with
  | null => exact hnull rfl
  | bool => cases hvalue
  | number | string | array | object =>
      obtain ⟨_, -, hcontra⟩ := Option.map_eq_some_iff.mp hvalue
      cases hcontra

namespace WireFrame

variable {frame : WireFrame}

/-! ## What can be read -/

/-- Whether the parts of a frame are values that can be read. -/
structure Readable (frame : WireFrame) : Prop where
  object : ∀ object, frame.object = some object →
    object ≠ .null ∧ object.Canonical ∧ object.depth ≤ 126
  list : ∀ items, frame.list = some items →
    ∀ item ∈ items, item.Canonical ∧ item.depth ≤ 125

theorem readable_of_readObject? {document : Document} {object : Json}
    (hread : readObject? document = some (some object)) :
    object ≠ .null ∧ object.Canonical ∧ object.depth ≤ 126 := by
  have hdepth : document.depth ≤ 126 := by
    by_contra hdeep
    rw [readObject?_eq_none_iff.mpr (.inl (Nat.lt_of_not_le hdeep))] at hread
    cases hread
  rcases readObject?_eq_some hread with ⟨-, hnone⟩ | ⟨hnull, value, hvalue, hsome⟩
  · cases hnone
  · cases hsome
    exact ⟨Document.ne_null_of_value? hvalue hnull, Document.canonical_of_value? hvalue,
      Nat.le_trans (Document.depth_le_of_value? hvalue) hdepth⟩

/-- An item has one level less than the list. -/
theorem readable_of_readList? {document : Document} {items : List Json}
    (hread : readList? document = some (some items)) :
    ∀ item ∈ items, item.Canonical ∧ item.depth ≤ 125 := by
  have hdepth : document.depth ≤ 126 := by
    by_contra hdeep
    rw [readList?_eq_none_iff.mpr (.inr (.inl (Nat.lt_of_not_le hdeep)))] at hread
    cases hread
  rcases readList?_eq_some hread with ⟨-, hnone⟩ | ⟨-, values, hvalue, hsome⟩
  · cases hnone
  · cases hsome
    have hcanonical := Document.canonical_of_value? hvalue
    rw [Json.Canonical, Json.canonicalItems_iff] at hcanonical
    have hitems : Json.depthItems items ≤ 125 :=
      Nat.le_of_succ_le_succ (Nat.le_trans (Document.depth_le_of_value? hvalue) hdepth)
    exact fun item hitem => ⟨hcanonical item hitem, Json.depthItems_le_iff.mp hitems item hitem⟩

theorem exists_of_optionalPart? {α : Type} {read : Document → Option (Option α)}
    {documents : List Document} {value : α}
    (hpart : optionalPart? read documents = some (some value)) :
    ∃ document, read document = some (some value) := by
  match documents with
  | [] => cases hpart
  | [document] => exact ⟨document, hpart⟩
  | _ :: _ :: _ => cases hpart

/-- Each part of a frame was read from a document, in any form. -/
theorem exists_of_ofDocument? {document : Document} (hframe : ofDocument? document = some frame) :
    (∀ object, frame.object = some object → ∃ part, readObject? part = some (some object)) ∧
      (∀ items, frame.list = some items → ∃ part, readList? part = some (some items)) := by
  cases document with
  | null | bool | number | string => cases hframe
  | object entries =>
      obtain ⟨members, hmembers⟩ : ∃ members : Members, members.document = .object entries := by
        by_contra hother
        rw [ofDocument?_of_not_members (not_exists.mp hother)] at hframe
        cases hframe
      rw [← hmembers, Members.ofDocument?_eq_some_iff] at hframe
      obtain ⟨-, hobject, hlist⟩ := hframe
      exact ⟨fun _ h => exists_of_optionalPart? (h ▸ hobject),
        fun _ h => exists_of_optionalPart? (h ▸ hlist)⟩
  | array parts =>
      match parts with
      | [type] =>
          obtain ⟨_, -, hframe⟩ := Option.bind_eq_some_iff.mp hframe
          cases hframe
          exact ⟨nofun, nofun⟩
      | [type, object] =>
          obtain ⟨_, -, hframe⟩ := Option.bind_eq_some_iff.mp hframe
          obtain ⟨part, hobject, hframe⟩ := Option.bind_eq_some_iff.mp hframe
          cases hframe
          exact ⟨fun _ h => ⟨object, h ▸ hobject⟩, nofun⟩
      | [type, object, list] =>
          obtain ⟨_, -, hframe⟩ := Option.bind_eq_some_iff.mp hframe
          obtain ⟨part, hobject, hframe⟩ := Option.bind_eq_some_iff.mp hframe
          obtain ⟨items, hlist, hframe⟩ := Option.bind_eq_some_iff.mp hframe
          cases hframe
          exact ⟨fun _ h => ⟨object, h ▸ hobject⟩, fun _ h => ⟨list, h ▸ hlist⟩⟩
      | [] | _ :: _ :: _ :: _ :: _ => cases hframe

theorem readable_of_ofDocument? {document : Document}
    (hframe : ofDocument? document = some frame) : frame.Readable := by
  obtain ⟨hobject, hlist⟩ := exists_of_ofDocument? hframe
  constructor
  · intro object hpart
    obtain ⟨part, hread⟩ := hobject object hpart
    exact readable_of_readObject? hread
  · intro items hpart
    obtain ⟨part, hread⟩ := hlist items hpart
    exact readable_of_readList? hread

end WireFrame

/-! ## Writing what was read -/

namespace Frame

/-- Whether a text is a snapshot without a list whose lone object is as deep as an object can
be. -/
def LoneDeepest (text : String) : Prop :=
  ∃ object, (Document.ofText? text).bind WireFrame.ofDocument? = some ⟨.init, some object, none⟩ ∧
    object.depth = 126

theorem decode_of_loneDeepest {text : String} (hlone : LoneDeepest text) :
    ∃ object, decode text = .ok (.event (.init [object])) ∧ object.depth = 126 := by
  obtain ⟨object, hframe, hdepth⟩ := hlone
  refine ⟨object, ?_, hdepth⟩
  rw [decode, hframe]
  rfl

section

variable {frame : WireFrame} {event : WatchEvent} (hreadable : frame.Readable)
  (hevent : ofWire frame = .ok (.event event))
  (hintegral : ∀ payload ∈ event.payloads, payload.Integral)

include hreadable hevent hintegral

/-- What a frame means that can be read is read again, if it has no lone object that is as deep
as an object can be. -/
theorem decode_render_of_readable
    (hlone : frame.type = .init → frame.list = none →
      ∀ object, frame.object = some object → object.depth ≠ 126) :
    decode event.render = .ok (.event event) := by
  obtain ⟨type, object, list⟩ := frame
  cases type with
  | closed => cases hevent
  | init =>
      have hfits : ∀ item ∈ list.getD object.toList, item.Canonical ∧ item.depth ≤ 125 := by
        cases list with
        | some items => exact hreadable.list items rfl
        | none =>
            cases object with
            | none => nofun
            | some object =>
                obtain ⟨-, hcanonical, hdepth⟩ := hreadable.object object rfl
                have hne := hlone rfl rfl object rfl
                simpa using ⟨hcanonical, by omega⟩
      cases hevent
      rw [decode_render_init _ fun item hitem => ⟨(hfits item hitem).1, hintegral item hitem⟩]
      exact if_pos fun item hitem => (hfits item hitem).2
  | added | modified | deleted =>
      cases object with
      | none => cases hevent
      | some object =>
          obtain ⟨hnull, hcanonical, hdepth⟩ := hreadable.object object rfl
          cases hevent
          have hpayload := hintegral object (List.mem_singleton_self object)
          exact (decode_render_of_ne_null rfl hnull ⟨hcanonical, hpayload⟩).trans (if_pos hdepth)

theorem decode_render_of_deepest {object : Json} (hframe : frame = ⟨.init, some object, none⟩)
    (hdepth : object.depth = 126) : decode event.render = .error .malformed := by
  subst hframe
  obtain ⟨-, hcanonical, -⟩ := hreadable.object object rfl
  cases hevent
  have hpayload := hintegral object (List.mem_singleton_self object)
  rw [decode_render_init _ (by simpa using ⟨hcanonical, hpayload⟩)]
  exact if_neg (by simp [hdepth])

end

/-- An event that was read from a text in any form, and that has no floating-point numbers, is
read as the same event from the text in which it is written, unless it came as a lone object as
deep as an object can be. Then what is written is malformed. -/
theorem decode_render_of_decode {text : String} {event : WatchEvent}
    (hdecode : decode text = .ok (.event event))
    (hintegral : ∀ payload ∈ event.payloads, payload.Integral) :
    (¬LoneDeepest text → decode event.render = .ok (.event event)) ∧
      (LoneDeepest text → decode event.render = .error .malformed) := by
  rw [decode] at hdecode
  cases hparts : (Document.ofText? text).bind WireFrame.ofDocument? with
  | none =>
      rw [hparts] at hdecode
      cases hdecode
  | some frame =>
      rw [hparts] at hdecode
      obtain ⟨document, -, hdocument⟩ := Option.bind_eq_some_iff.mp hparts
      have hreadable := WireFrame.readable_of_ofDocument? hdocument
      constructor
      · intro hlone
        refine decode_render_of_readable hreadable hdecode hintegral fun htype hlist object h => ?_
        intro hdepth
        refine hlone ⟨object, ?_, hdepth⟩
        rw [hparts, ← htype, ← hlist, ← h]
      · rintro ⟨object, hframe, hdepth⟩
        have hsame := Option.some.inj (hparts.symm.trans hframe)
        exact decode_render_of_deepest hreadable hdecode hintegral hsame hdepth

/-- A snapshot of a lone object. Its members and those of the object are in no order, and one of
them does not count. -/
def shuffledSnapshot : String :=
  "\x7b\"x\":1,\"list\":null,\"object\":\x7b\"b\":[],\"a\":null\x7d,\"type\":\"INIT\"\x7d"

theorem decode_render_of_decode_shuffledSnapshot :
    decode shuffledSnapshot = .ok (.event (.init [.object [("a", .null), ("b", .array [])]])) ∧
    decode (WatchEvent.init [.object [("a", .null), ("b", .array [])]]).render =
      .ok (.event (.init [.object [("a", .null), ("b", .array [])]])) ∧
    decode "[\"DELETED\",true,[null]]" = .ok (.event (.deleted (.bool true))) ∧
    decode (WatchEvent.deleted (.bool true)).render = .ok (.event (.deleted (.bool true))) := by
  have hsnapshot : decode shuffledSnapshot =
      .ok (.event (.init [.object [("a", .null), ("b", .array [])]])) := by
    simp only [decode, shuffledSnapshot, Document.ofText?, String.reduceToList]
    rfl
  have hdeleted : decode "[\"DELETED\",true,[null]]" =
      .ok (.event (.deleted (.bool true))) := by
    simp only [decode, Document.ofText?, String.reduceToList]
    rfl
  refine ⟨hsnapshot, ?_, hdeleted, ?_⟩
  · refine (decode_render_of_decode hsnapshot ?_).1 ?_
    · simp [WatchEvent.payloads, Json.Integral, Json.IntegralMembers, Json.IntegralItems]
    · intro hlone
      obtain ⟨object, hsame, hdepth⟩ := decode_of_loneDeepest hlone
      cases hsnapshot.symm.trans hsame
      exact absurd hdepth (by decide)
  · refine (decode_render_of_decode hdeleted ?_).1 ?_
    · simp [WatchEvent.payloads, Json.Integral]
    · intro hlone
      obtain ⟨object, hsame, -⟩ := decode_of_loneDeepest hlone
      cases hdeleted.symm.trans hsame

/-- Nothing in a number of arrays. -/
def nested : Nat → Json
  | 0 => .null
  | depth + 1 => .array [nested depth]

theorem nested_spec (depth : Nat) :
    (nested depth).depth = depth ∧ (nested depth).Canonical ∧ (nested depth).Integral := by
  induction depth with
  | zero => exact ⟨rfl, trivial, trivial⟩
  | succ depth ih =>
      simpa [nested, Json.depth, Json.depthItems, Json.Canonical, Json.CanonicalItems,
        Json.Integral, Json.IntegralItems] using ih

theorem decode_loneObject {object : Json} (hnull : object ≠ .null)
    (hcanonical : object.Canonical) (hintegral : object.Integral) (hdepth : object.depth ≤ 126) :
    decode (WireFrame.render ⟨.init, some object, none⟩) = .ok (.event (.init [object])) := by
  have hmembers : (Json.object (WireFrame.members ⟨.init, some object, none⟩)).Integral := by
    simpa [WireFrame.members, Json.Integral, Json.IntegralMembers] using hintegral
  have hread := WireFrame.readObject?_ofJson hcanonical hnull
  rw [if_pos hdepth] at hread
  rw [decode_render_wire hmembers, WireFrame.ofDocument?_members]
  simp only [Option.toList_none, Option.toList_some, List.map_nil, List.map_cons,
    WireFrame.optionalPart?, Option.bind_some, hread]
  rfl

/-- A lone object in 126 arrays is read, but the snapshot that is written for it is not. -/
theorem decode_render_deepest :
    decode (WireFrame.render ⟨.init, some (nested 126), none⟩) =
      .ok (.event (.init [nested 126])) ∧
    (∀ payload ∈ (WatchEvent.init [nested 126]).payloads, payload.Integral) ∧
    decode (WatchEvent.init [nested 126]).render = .error .malformed := by
  obtain ⟨hdepth, hcanonical, hintegral⟩ := nested_spec 126
  refine ⟨decode_loneObject nofun hcanonical hintegral (Nat.le_of_eq hdepth), ?_, ?_⟩
  · simpa [WatchEvent.payloads] using hintegral
  · rw [decode_render_init _ (by simpa using ⟨hcanonical, hintegral⟩)]
    exact if_neg (by simp [hdepth])

end Frame

end ResourceWatch
