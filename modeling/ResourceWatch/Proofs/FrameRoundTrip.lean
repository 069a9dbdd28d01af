import ResourceWatch.Frame
import ResourceWatch.Proofs.ValueRoundTrip

/-! # Events that are written are read back

The text of an event is read as the event itself, with two exceptions that both come
from the form of a frame. Nothing in the place of an object is no object, so a change to
nothing is read as a frame that lacks its object. And a text is read only so deep, while
a frame is one level around an object and the list of a snapshot is another.
-/

namespace ResourceWatch

/-- A value is read from its document if it is nested no deeper than the bound. -/
theorem Document.valueWithin?_ofJson {value : Json} (hcanonical : value.Canonical)
    (bound : Nat) :
    (ofJson value).valueWithin? bound = if value.depth ≤ bound then some value else none := by
  rw [valueWithin?, depth_ofJson, value?_ofJson hcanonical]

theorem FrameType.ofDocument?_name (type : FrameType) :
    ofDocument? (.string (some type.name)) = some type := by
  cases type <;> rfl

namespace WireFrame

/-- The members of a frame are read part by part. -/
theorem ofDocument?_members (frame : WireFrame) :
    ofDocument? (.ofJson (.object frame.members)) =
      (optionalPart? readObject? (frame.object.toList.map .ofJson)).bind fun object =>
        (optionalPart? readList? (frame.list.toList.map fun items =>
            .ofJson (.array items))).bind fun list =>
          some ⟨frame.type, object, list⟩ := by
  obtain ⟨type, object, list⟩ := frame
  cases object <;> cases list <;>
    simp [members, Document.ofJson, Document.ofMembers, ofDocument?, Document.keysReadable,
      Document.named, FrameType.ofDocument?_name, optionalPart?]

/-- An object is read from its document, unless it is nothing or nested too deep. -/
theorem readObject?_ofJson {value : Json} (hcanonical : value.Canonical)
    (hnull : value ≠ .null) :
    readObject? (.ofJson value) =
      if value.depth ≤ 126 then some (some value) else none := by
  have hvalue := Document.valueWithin?_ofJson hcanonical maxPartDepth
  have hread : readObject? (.ofJson value) =
      ((Document.ofJson value).valueWithin? maxPartDepth).map some := by
    cases value with
    | null => exact absurd rfl hnull
    | bool | number | string | array | object => rfl
  rw [hread, hvalue, maxPartDepth, Document.maxDepth]
  split <;> rfl

/-- A list is read from its document, unless an item of it is nested too deep. -/
theorem readList?_ofJson {items : List Json} (hcanonical : ∀ item ∈ items, item.Canonical) :
    readList? (.ofJson (.array items)) =
      if ∀ item ∈ items, item.depth ≤ 125 then some (some items) else none := by
  have harray : (Json.array items).Canonical := by
    rwa [Json.Canonical, Json.canonicalItems_iff]
  have hvalue := Document.valueWithin?_ofJson harray maxPartDepth
  have hdepth : (Json.array items).depth ≤ maxPartDepth ↔ ∀ item ∈ items, item.depth ≤ 125 := by
    rw [Json.depth, ← Json.depthItems_le_iff, maxPartDepth, Document.maxDepth]
    omega
  rw [Document.ofJson] at hvalue ⊢
  rw [readList?, hvalue]
  simp only [hdepth]
  split <;> rfl

end WireFrame

/-! ## Decoding -/

/-- How deep the payloads of an event may be nested to be read back. -/
def WatchEvent.payloadDepth : WatchEvent → Nat
  | init _ => 125
  | _ => 126

namespace Frame

/-- The text of a frame means what its parts mean when they are read. -/
theorem decode_render_wire {frame : WireFrame}
    (hintegral : (Json.object frame.members).Integral) :
    decode frame.render =
      match WireFrame.ofDocument? (.ofJson (.object frame.members)) with
      | some frame => ofWire frame
      | none => .error .malformed := by
  have htext := Document.ofText?_render hintegral
  rw [decode, WireFrame.render, Json.renderMembers, htext]
  rfl

/-- A snapshot is read back unless an item of it is nested too deep. -/
theorem decode_render_init (items : List Json)
    (hitems : ∀ item ∈ items, item.Canonical ∧ item.Integral) :
    decode (WatchEvent.init items).render =
      if ∀ item ∈ items, item.depth ≤ 125 then .ok (.event (.init items))
      else .error .malformed := by
  have hmembers : (Json.object (WatchEvent.init items).toWire.members).Integral := by
    simpa [WatchEvent.toWire, WireFrame.members, Json.Integral, Json.IntegralMembers,
      Json.integralItems_iff] using fun item hitem => (hitems item hitem).2
  have hlist := WireFrame.readList?_ofJson fun item hitem => (hitems item hitem).1
  rw [WatchEvent.render, decode_render_wire hmembers, WireFrame.ofDocument?_members]
  simp only [WatchEvent.toWire, Option.toList_none, Option.toList_some, List.map_nil,
    List.map_cons, WireFrame.optionalPart?, Option.bind_some, hlist]
  by_cases hfits : ∀ item ∈ items, item.depth ≤ 125
  · rw [if_pos hfits, if_pos hfits]
    rfl
  · rw [if_neg hfits, if_neg hfits]
    rfl

section Change

variable {event : WatchEvent} {object : Json} (hobject : event.object? = some object)

include hobject

theorem decode_render_of_object (hintegral : object.Integral) :
    decode event.render =
      match WireFrame.readObject? (.ofJson object) with
      | some part => ofWire ⟨event.frameType, part, none⟩
      | none => .error .malformed := by
  have hwire : event.toWire = ⟨event.frameType, some object, none⟩ := by
    cases event with
    | init items => cases hobject
    | added | modified | deleted =>
        rw [WatchEvent.toWire, hobject]
        nofun
  have hmembers : (Json.object event.toWire.members).Integral := by
    simpa [hwire, WireFrame.members, Json.Integral, Json.IntegralMembers] using hintegral
  rw [WatchEvent.render, decode_render_wire hmembers, WireFrame.ofDocument?_members, hwire]
  simp only [Option.toList_none, Option.toList_some, List.map_nil, List.map_cons,
    WireFrame.optionalPart?, Option.bind_some]
  cases WireFrame.readObject? (.ofJson object) <;> rfl

/-- A change to nothing is written, but it is read as a change that lacks its object. -/
theorem decode_render_of_null (hnull : object = .null) :
    decode event.render = .error (.missingObject event.frameType) := by
  subst hnull
  rw [decode_render_of_object hobject trivial]
  cases event with
  | init items => cases hobject
  | added | modified | deleted => rfl

/-- Any other change is read back unless its object is nested too deep. -/
theorem decode_render_of_ne_null (hnull : object ≠ .null)
    (hpayload : object.Canonical ∧ object.Integral) :
    decode event.render =
      if object.depth ≤ 126 then .ok (.event event) else .error .malformed := by
  have hevent : ofWire ⟨event.frameType, some object, none⟩ = .ok (.event event) := by
    cases event with
    | init items => cases hobject
    | added | modified | deleted =>
        cases hobject
        rfl
  rw [decode_render_of_object hobject hpayload.2,
    WireFrame.readObject?_ofJson hpayload.1 hnull]
  by_cases hfits : object.depth ≤ 126
  · rw [if_pos hfits, if_pos hfits]
    exact hevent
  · rw [if_neg hfits, if_neg hfits]

end Change

/-- The text of an event without floating-point numbers is read as the event itself, as
long as its payloads are nested no deeper than the form of a frame leaves room for. Only
a change of one object to nothing is not read back, since nothing is no object, and
anything deeper is malformed. -/
theorem decode_render (event : WatchEvent)
    (hpayloads : ∀ payload ∈ event.payloads, payload.Canonical ∧ payload.Integral) :
    (event.object? = some .null →
      decode event.render = .error (.missingObject event.frameType)) ∧
    (event.object? ≠ some .null →
      (∀ payload ∈ event.payloads, payload.depth ≤ event.payloadDepth) →
        decode event.render = .ok (.event event)) ∧
    ((∃ payload ∈ event.payloads, event.payloadDepth < payload.depth) →
      decode event.render = .error .malformed) := by
  cases event with
  | init items =>
      have hdecode := decode_render_init items hpayloads
      refine ⟨nofun, fun _ hfits => hdecode.trans (if_pos hfits), ?_⟩
      rintro ⟨item, hitem, hdeep⟩
      exact hdecode.trans (if_neg fun hfits => Nat.not_lt.mpr (hfits item hitem) hdeep)
  | added object | modified object | deleted object =>
      have hpayload := hpayloads object (List.mem_singleton_self object)
      refine ⟨fun hnull => decode_render_of_null hnull rfl, ?_, ?_⟩
      · intro hnull hfits
        have hobject : object ≠ .null := fun h => hnull (congrArg some h)
        exact Eq.trans (decode_render_of_ne_null rfl hobject hpayload)
          (if_pos (hfits object (List.mem_singleton_self object)))
      · rintro ⟨payload, hmem, hdeep⟩
        obtain rfl := List.mem_singleton.mp hmem
        have hobject : payload ≠ .null := by
          rintro rfl
          cases hdeep
        exact Eq.trans (decode_render_of_ne_null rfl hobject hpayload)
          (if_neg (Nat.not_le.mpr hdeep))

/-- An object with the least and the greatest integer, an empty key, and characters with
each kind of form. -/
def extremes : Json :=
  .object [
    ("", .array [.number (.int ⟨-9223372036854775808, by decide⟩), .null,
      .number (.int ⟨18446744073709551615, by decide⟩)]),
    ("\"\\\x01", .string "é\n\x7f")]

theorem decode_render_extremes :
    decode (WatchEvent.modified extremes).render = .ok (.event (.modified extremes)) ∧
    decode (WatchEvent.init [.null, extremes]).render =
      .ok (.event (.init [.null, extremes])) ∧
    decode (WatchEvent.deleted .null).render = .error (.missingObject .deleted) := by
  have hnull : Json.null.Canonical ∧ Json.null.Integral := ⟨trivial, trivial⟩
  have hkeys : compare "" "\"\\\x01" = .lt := by decide
  have hextremes : extremes.Canonical ∧ extremes.Integral := by
    simp [extremes, Json.Canonical, Json.CanonicalItems, Json.CanonicalMembers,
      Entries.Ascending, hkeys, Json.Integral, Json.IntegralItems, Json.IntegralMembers]
  have hdepth : extremes.depth = 2 := rfl
  refine ⟨?_, ?_, ?_⟩
  · apply (decode_render (.modified extremes) (by simpa [WatchEvent.payloads])).2.1
    · simp [WatchEvent.object?, extremes]
    · simp [WatchEvent.payloads, WatchEvent.payloadDepth, hdepth]
  · apply (decode_render (.init [.null, extremes])
      (by simp [WatchEvent.payloads, hnull, hextremes])).2.1
    · simp [WatchEvent.object?]
    · simp [WatchEvent.payloads, WatchEvent.payloadDepth, hdepth, Json.depth]
  · exact (decode_render (.deleted .null) (by simp [WatchEvent.payloads, hnull])).1 rfl

end Frame

end ResourceWatch
