import ResourceWatch.Frame
import ResourceWatch.Proofs.DocumentValue

/-! # The members of a frame

An object is read as a frame by three of its members, wherever they stand and whatever else is
there. Each of them may occur once, and a part is looked at even where it does not count. So it
is a matter of the list of members whether a text is a frame, and what the frame means.
-/

namespace ResourceWatch

/-- Whether a document names the type of a frame, as a text or as the only key of an object with
nothing under it. -/
def Document.NamesType (document : Document) (type : FrameType) : Prop :=
  document = .string (some type.name) ∨ document = .object [(some type.name, .null)]

/-- The members of an object in the order of its text, each with its key. -/
abbrev Members := List (String × Document)

namespace Members

/-- The object of some members. -/
def document (members : Members) : Document :=
  .object (members.map fun member => (some member.1, member.2))

/-- The documents under a key, in order. -/
def under (key : String) (members : Members) : List Document :=
  members.filterMap fun member => if member.1 = key then some member.2 else none

/-- Whether a member counts in a frame. -/
def counts (member : String × Document) : Bool :=
  member.1 = "type" || member.1 = "object" || member.1 = "list"

/-- Why members make no frame. -/
inductive Malformed (members : Members) : Prop where
  | noType (hnone : "type" ∉ members.map Prod.fst)
  | repeated {key : String} (hkey : key ∈ ["type", "object", "list"])
      (hcount : 1 < (members.map Prod.fst).count key)
  | unknownType {document : Document} (hmem : ("type", document) ∈ members)
      (hunknown : ∀ type, ¬document.NamesType type)
  | noList {document : Document} (hmem : ("list", document) ∈ members)
      (hnull : document ≠ .null) (harray : ∀ items, document ≠ .array items)
  | unreadable {key : String} {document : Document} (hkey : key ∈ ["object", "list"])
      (hmem : (key, document) ∈ members)
      (hfault : 126 < document.depth ∨ document.Faulty)

/-- Whether members name a type. -/
def HasType (members : Members) (type : FrameType) : Prop :=
  ∃ document, ("type", document) ∈ members ∧ document.NamesType type

/-- Whether members have nothing under a key. -/
def Absent (members : Members) (key : String) : Prop :=
  ∀ document, (key, document) ∈ members → document = .null

/-- Whether members have a value under a key. -/
def Holds (members : Members) (key : String) (value : Json) : Prop :=
  ∃ document, (key, document) ∈ members ∧ document ≠ .null ∧ document.value? = some value

/-- What members mean that make a frame. -/
inductive Means (members : Members) : Except DecodeError Frame → Prop where
  | closed (htype : members.HasType .closed) : Means members (.ok .closed)
  | list {items : List Json} (htype : members.HasType .init)
      (hlist : members.Holds "list" (.array items)) : Means members (.ok (.event (.init items)))
  | loneObject {object : Json} (htype : members.HasType .init) (hlist : members.Absent "list")
      (hobject : members.Holds "object" object) : Means members (.ok (.event (.init [object])))
  | nothing (htype : members.HasType .init) (hlist : members.Absent "list")
      (hobject : members.Absent "object") : Means members (.ok (.event (.init [])))
  | change {event : WatchEvent} {object : Json} (hevent : event.object? = some object)
      (htype : members.HasType event.frameType) (hobject : members.Holds "object" object) :
      Means members (.ok (.event event))
  | missingObject {type : FrameType} (hchange : type ∈ [.added, .modified, .deleted])
      (htype : members.HasType type) (hobject : members.Absent "object") :
      Means members (.error (.missingObject type))

/-! ## Documents under a key -/

theorem named_map (key : String) (members : Members) :
    Document.named key (members.map fun member => (some member.1, member.2)) =
      members.under key := by
  simp [Document.named, under, List.filterMap_map]

theorem mem_under {members : Members} {key : String} {document : Document} :
    document ∈ members.under key ↔ (key, document) ∈ members := by
  simp [under, and_comm]

theorem length_under (members : Members) (key : String) :
    (members.under key).length = (members.map Prod.fst).count key := by
  induction members with
  | nil => rfl
  | cons member members ih =>
      rw [under] at ih ⊢
      by_cases hkey : member.1 = key <;> simp [hkey, ih]

end Members

namespace FrameType

theorem ofName?_eq_some_iff {name : String} {type : FrameType} :
    ofName? name = some type ↔ name = type.name := by
  constructor
  · intro hname
    simpa [eq_comm] using List.find?_some hname
  · rintro rfl
    cases type <;> rfl

theorem ofDocument?_eq_some_iff {document : Document} {type : FrameType} :
    ofDocument? document = some type ↔ document.NamesType type := by
  have hvariant : ∀ name, document.variant? = some name ↔
      document = .string (some name) ∨ document = .object [(some name, .null)] := by
    intro name
    unfold Document.variant?
    split <;> simp_all
  simp only [ofDocument?, Option.bind_eq_some_iff, hvariant, ofName?_eq_some_iff]
  constructor
  · rintro ⟨_, hdocument, rfl⟩
    exact hdocument
  · intro hnames
    exact ⟨_, hnames, rfl⟩

end FrameType

/-! ## Parts -/

theorem Document.valueWithin?_eq_some_iff {bound : Nat} {document : Document} {value : Json} :
    document.valueWithin? bound = some value ↔
      document.depth ≤ bound ∧ document.value? = some value := by
  simp [valueWithin?]

theorem Document.valueWithin?_eq_none_iff {bound : Nat} {document : Document} :
    document.valueWithin? bound = none ↔ bound < document.depth ∨ document.Faulty := by
  rw [← value?_eq_none_iff, ← Nat.not_le, ← imp_iff_not_or]
  simp [valueWithin?]

namespace WireFrame

theorem readObject?_of_ne_null {document : Document} (hnull : document ≠ .null) :
    readObject? document = (document.valueWithin? maxPartDepth).map some := by
  cases document <;> first | exact absurd rfl hnull | rfl

theorem readObject?_eq_none_iff {document : Document} :
    readObject? document = none ↔ 126 < document.depth ∨ document.Faulty := by
  by_cases hnull : document = .null
  · subst hnull
    simpa [readObject?, Document.depth] using Document.not_faulty_null
  · rw [readObject?_of_ne_null hnull, Option.map_eq_none_iff, Document.valueWithin?_eq_none_iff]
    rfl

theorem readObject?_eq_some {document : Document} {part : Option Json}
    (hread : readObject? document = some part) :
    (document = .null ∧ part = none) ∨
      (document ≠ .null ∧ ∃ value, document.value? = some value ∧ part = some value) := by
  by_cases hnull : document = .null
  · subst hnull
    exact .inl ⟨rfl, (Option.some.inj hread).symm⟩
  · rw [readObject?_of_ne_null hnull] at hread
    obtain ⟨value, hvalue, rfl⟩ := Option.map_eq_some_iff.mp hread
    exact .inr ⟨hnull, value, (Document.valueWithin?_eq_some_iff.mp hvalue).2, rfl⟩

theorem valueWithin?_array {items : List Document} {value : Json}
    (hvalue : (Document.array items).valueWithin? maxPartDepth = some value) :
    ∃ values, value = .array values ∧ readList? (.array items) = some (some values) := by
  obtain ⟨values, -, rfl⟩ :=
    Option.map_eq_some_iff.mp (Document.valueWithin?_eq_some_iff.mp hvalue).2
  exact ⟨values, rfl, by rw [readList?, hvalue]; rfl⟩

theorem readList?_eq_none_iff {document : Document} :
    readList? document = none ↔
      (document ≠ .null ∧ ∀ items, document ≠ .array items) ∨
        126 < document.depth ∨ document.Faulty := by
  cases document with
  | null => simpa [readList?, Document.depth] using Document.not_faulty_null
  | bool | number | string | object => simp [readList?]
  | array items =>
      have hnone : readList? (.array items) = none ↔
          (Document.array items).valueWithin? maxPartDepth = none := by
        cases hvalue : (Document.array items).valueWithin? maxPartDepth with
        | none => simp [readList?, hvalue]
        | some value =>
            obtain ⟨values, -, hread⟩ := valueWithin?_array hvalue
            simp [hread]
      rw [hnone, Document.valueWithin?_eq_none_iff]
      simp [maxPartDepth, Document.maxDepth]

theorem readList?_eq_some {document : Document} {part : Option (List Json)}
    (hread : readList? document = some part) :
    (document = .null ∧ part = none) ∨
      (document ≠ .null ∧ ∃ items, document.value? = some (.array items) ∧ part = some items) := by
  cases document with
  | null => exact .inl ⟨rfl, (Option.some.inj hread).symm⟩
  | bool | number | string | object => cases hread
  | array items =>
      obtain ⟨value, hvalue, -⟩ := Option.bind_eq_some_iff.mp hread
      obtain ⟨values, rfl, hvalues⟩ := valueWithin?_array hvalue
      exact .inr ⟨nofun, values, (Document.valueWithin?_eq_some_iff.mp hvalue).2,
        Option.some.inj (hread.symm.trans hvalues)⟩

theorem optionalPart?_eq_none_iff {α : Type} {read : Document → Option (Option α)}
    {documents : List Document} :
    optionalPart? read documents = none ↔
      1 < documents.length ∨ ∃ document ∈ documents, read document = none := by
  match documents with
  | [] => simp [optionalPart?]
  | [document] => simp [optionalPart?]
  | _ :: _ :: _ => simp [optionalPart?]

end WireFrame

/-! ## Frames -/

namespace Members

open WireFrame

variable {members : Members} {frame : WireFrame}

/-- A frame is read part by part from what stands under its keys. -/
theorem ofDocument?_eq_some_iff :
    WireFrame.ofDocument? members.document = some frame ↔
      (∃ document, members.under "type" = [document] ∧
        FrameType.ofDocument? document = some frame.type) ∧
      optionalPart? readObject? (members.under "object") = some frame.object ∧
      optionalPart? readList? (members.under "list") = some frame.list := by
  have hreadable :
      Document.keysReadable (members.map fun member => (some member.1, member.2)) = true := by
    simp [Document.keysReadable]
  obtain ⟨type, object, list⟩ := frame
  simp only [document, WireFrame.ofDocument?, hreadable, if_true, named_map]
  match members.under "type" with
  | [] => simp
  | [document] =>
      simp only [Option.bind_eq_bind, Option.bind_eq_some_iff, Option.pure_def, Option.some.injEq,
        WireFrame.mk.injEq, List.cons.injEq, and_true, exists_eq_left']
      constructor
      · rintro ⟨_, htype, _, hobject, _, hlist, rfl, rfl, rfl⟩
        exact ⟨htype, hobject, hlist⟩
      · rintro ⟨htype, hobject, hlist⟩
        exact ⟨_, htype, _, hobject, _, hlist, rfl, rfl, rfl⟩
  | _ :: _ :: _ => simp

theorem malformed_of_length {key : String} (hkey : key ∈ ["type", "object", "list"])
    (hlength : 1 < (members.under key).length) : members.Malformed :=
  .repeated hkey (length_under members key ▸ hlength)

/-- Members without any fault make a frame. -/
theorem exists_frame (hwell : ¬members.Malformed) :
    ∃ frame, WireFrame.ofDocument? members.document = some frame := by
  obtain ⟨document, htypes⟩ : ∃ document, members.under "type" = [document] := by
    match htypes : members.under "type" with
    | [] =>
        refine absurd (.noType (List.count_eq_zero.mp ?_)) hwell
        rw [← length_under, htypes, List.length_nil]
    | [document] => exact ⟨document, rfl⟩
    | _ :: _ :: _ =>
        have hlength : 1 < (members.under "type").length := by simp [htypes]
        exact absurd (malformed_of_length (by simp) hlength) hwell
  have hmem : ("type", document) ∈ members := mem_under.mp (htypes ▸ List.mem_singleton_self _)
  obtain ⟨type, htype⟩ : ∃ type, document.NamesType type := by
    by_contra hunknown
    exact hwell (.unknownType hmem (not_exists.mp hunknown))
  obtain ⟨object, hobject⟩ :
      ∃ part, optionalPart? readObject? (members.under "object") = some part := by
    refine Option.ne_none_iff_exists'.mp fun hnone => hwell ?_
    rcases optionalPart?_eq_none_iff.mp hnone with hlength | ⟨part, hpart, hread⟩
    · exact malformed_of_length (by simp) hlength
    · exact .unreadable (by simp) (mem_under.mp hpart) (readObject?_eq_none_iff.mp hread)
  obtain ⟨list, hlist⟩ :
      ∃ part, optionalPart? readList? (members.under "list") = some part := by
    refine Option.ne_none_iff_exists'.mp fun hnone => hwell ?_
    rcases optionalPart?_eq_none_iff.mp hnone with hlength | ⟨part, hpart, hread⟩
    · exact malformed_of_length (by simp) hlength
    · rcases readList?_eq_none_iff.mp hread with ⟨hnull, harray⟩ | hfault
      · exact .noList (mem_under.mp hpart) hnull harray
      · exact .unreadable (by simp) (mem_under.mp hpart) hfault
  have hnamed := FrameType.ofDocument?_eq_some_iff.mpr htype
  exact ⟨⟨type, object, list⟩,
    ofDocument?_eq_some_iff.mpr ⟨⟨document, htypes, hnamed⟩, hobject, hlist⟩⟩

theorem not_malformed (hframe : WireFrame.ofDocument? members.document = some frame) :
    ¬members.Malformed := by
  obtain ⟨⟨document, htypes, htype⟩, hobject, hlist⟩ := ofDocument?_eq_some_iff.mp hframe
  have hone : (members.under "type").length = 1 := by rw [htypes, List.length_singleton]
  have hnoObject : ¬(1 < (members.under "object").length ∨
      ∃ part ∈ members.under "object", readObject? part = none) := by
    rw [← optionalPart?_eq_none_iff, hobject]
    nofun
  have hnoList : ¬(1 < (members.under "list").length ∨
      ∃ part ∈ members.under "list", readList? part = none) := by
    rw [← optionalPart?_eq_none_iff, hlist]
    nofun
  intro hmalformed
  cases hmalformed with
  | noType hnone =>
      rw [length_under] at hone
      rw [List.count_eq_zero.mpr hnone] at hone
      cases hone
  | repeated hkey hcount =>
      rw [← length_under] at hcount
      simp only [List.mem_cons, List.not_mem_nil, or_false] at hkey
      rcases hkey with rfl | rfl | rfl
      · rw [hone] at hcount
        exact Nat.lt_irrefl 1 hcount
      · exact hnoObject (.inl hcount)
      · exact hnoList (.inl hcount)
  | unknownType hmem hunknown =>
      rw [← mem_under, htypes, List.mem_singleton] at hmem
      exact hunknown _ (hmem ▸ FrameType.ofDocument?_eq_some_iff.mp htype)
  | noList hmem hnull harray =>
      exact hnoList
        (.inr ⟨_, mem_under.mpr hmem, readList?_eq_none_iff.mpr (.inl ⟨hnull, harray⟩)⟩)
  | unreadable hkey hmem hfault =>
      simp only [List.mem_cons, List.not_mem_nil, or_false] at hkey
      rcases hkey with rfl | rfl
      · exact hnoObject (.inr ⟨_, mem_under.mpr hmem, readObject?_eq_none_iff.mpr hfault⟩)
      · exact hnoList (.inr ⟨_, mem_under.mpr hmem, readList?_eq_none_iff.mpr (.inr hfault)⟩)

/-- Members make no frame exactly for the reasons of `Malformed`. -/
theorem ofDocument?_eq_none_iff :
    WireFrame.ofDocument? members.document = none ↔ members.Malformed := by
  constructor
  · intro hnone
    by_contra hwell
    obtain ⟨frame, hframe⟩ := exists_frame hwell
    rw [hnone] at hframe
    cases hframe
  · intro hmalformed
    exact Option.eq_none_iff_forall_ne_some.mpr fun frame hframe =>
      not_malformed hframe hmalformed

/-! ## Meanings -/

/-- Whether a part is what members have under a key. -/
def HasPart (members : Members) (key : String) : Option Json → Prop
  | none => members.Absent key
  | some value => members.Holds key value

theorem hasPart_of_optionalPart? {α : Type} {read : Document → Option (Option α)}
    (form : α → Json) {key : String} {part : Option α}
    (hread : ∀ document part, read document = some part →
      (document = .null ∧ part = none) ∨
        (document ≠ .null ∧ ∃ value, document.value? = some (form value) ∧ part = some value))
    (hpart : optionalPart? read (members.under key) = some part) :
    members.HasPart key (part.map form) := by
  match hdocuments : members.under key with
  | [] =>
      rw [hdocuments] at hpart
      obtain rfl := Option.some.inj hpart
      intro document hmem
      rw [← mem_under, hdocuments] at hmem
      cases hmem
  | [document] =>
      rw [hdocuments] at hpart
      rcases hread document part hpart with ⟨rfl, rfl⟩ | ⟨hnull, value, hvalue, rfl⟩
      · intro document hmem
        rw [← mem_under, hdocuments, List.mem_singleton] at hmem
        exact hmem
      · exact ⟨document, mem_under.mp (hdocuments ▸ List.mem_singleton_self _), hnull, hvalue⟩
  | _ :: _ :: _ =>
      rw [hdocuments] at hpart
      cases hpart

/-- The parts of a frame are what its members have. -/
theorem parts_of_ofDocument? (hframe : WireFrame.ofDocument? members.document = some frame) :
    members.HasType frame.type ∧ members.HasPart "object" frame.object ∧
      members.HasPart "list" (frame.list.map .array) := by
  obtain ⟨⟨document, htypes, htype⟩, hobject, hlist⟩ := ofDocument?_eq_some_iff.mp hframe
  refine ⟨⟨document, ?_, FrameType.ofDocument?_eq_some_iff.mp htype⟩, ?_, ?_⟩
  · exact mem_under.mp (htypes ▸ List.mem_singleton_self _)
  · simpa using hasPart_of_optionalPart? id (fun _ _ => readObject?_eq_some) hobject
  · exact hasPart_of_optionalPart? .array (fun _ _ => readList?_eq_some) hlist

theorem eq_of_mem_of_mem (hwell : ¬members.Malformed) {key : String}
    (hkey : key ∈ ["type", "object", "list"]) {document other : Document}
    (hmem : (key, document) ∈ members) (hother : (key, other) ∈ members) : document = other := by
  rw [← mem_under] at hmem hother
  match hdocuments : members.under key with
  | [] =>
      rw [hdocuments] at hmem
      cases hmem
  | [sole] =>
      rw [hdocuments, List.mem_singleton] at hmem hother
      rw [hmem, hother]
  | _ :: _ :: _ =>
      have hlength : 1 < (members.under key).length := by simp [hdocuments]
      exact absurd (malformed_of_length hkey hlength) hwell

theorem HasType.unique (hwell : ¬members.Malformed) {type other : FrameType}
    (htype : members.HasType type) (hother : members.HasType other) : type = other := by
  obtain ⟨document, hmem, hnames⟩ := htype
  obtain ⟨document', hmem', hnames'⟩ := hother
  obtain rfl := eq_of_mem_of_mem hwell (by simp) hmem hmem'
  rw [← FrameType.ofDocument?_eq_some_iff] at hnames hnames'
  exact Option.some.inj (hnames.symm.trans hnames')

theorem HasPart.unique (hwell : ¬members.Malformed) {key : String}
    (hkey : key ∈ ["type", "object", "list"]) {part other : Option Json}
    (hpart : members.HasPart key part) (hother : members.HasPart key other) : part = other := by
  cases part with
  | none =>
      cases other with
      | none => rfl
      | some value =>
          obtain ⟨document, hmem, hnull, -⟩ := hother
          exact absurd (hpart document hmem) hnull
  | some value =>
      obtain ⟨document, hmem, hnull, hvalue⟩ := hpart
      cases other with
      | none => exact absurd (hother document hmem) hnull
      | some otherValue =>
          obtain ⟨document', hmem', -, hvalue'⟩ := hother
          obtain rfl := eq_of_mem_of_mem hwell hkey hmem hmem'
          rw [← hvalue, ← hvalue']

theorem means_ofWire (hframe : WireFrame.ofDocument? members.document = some frame) :
    members.Means (Frame.ofWire frame) := by
  obtain ⟨htype, hobject, hlist⟩ := parts_of_ofDocument? hframe
  obtain ⟨type, object, list⟩ := frame
  cases type with
  | closed => exact .closed htype
  | init =>
      cases list with
      | some items => exact .list htype hlist
      | none =>
          cases object with
          | some value => exact .loneObject htype hlist hobject
          | none => exact .nothing htype hlist hobject
  | added | modified | deleted =>
      cases object with
      | some value => exact .change rfl htype hobject
      | none => exact .missingObject (by simp) htype hobject

/-- The meaning of a frame is the only one that its members have. -/
theorem ofWire_of_means (hframe : WireFrame.ofDocument? members.document = some frame)
    {result : Except DecodeError Frame} (hmeans : members.Means result) :
    Frame.ofWire frame = result := by
  have hwell := not_malformed hframe
  obtain ⟨htype, hobject, hlist⟩ := parts_of_ofDocument? hframe
  have hsameType : ∀ type, members.HasType type → frame.type = type :=
    fun _ => htype.unique hwell
  have hsameObject : ∀ part, members.HasPart "object" part → frame.object = part :=
    fun _ => hobject.unique hwell (by simp)
  have hsameList : ∀ part, members.HasPart "list" part → frame.list.map .array = part :=
    fun _ => hlist.unique hwell (by simp)
  clear htype hobject hlist hframe hwell
  obtain ⟨type, object, list⟩ := frame
  dsimp only at hsameType hsameObject hsameList
  cases hmeans with
  | closed htype =>
      obtain rfl := hsameType _ htype
      rfl
  | list htype hlist =>
      obtain rfl := hsameType _ htype
      obtain ⟨items, rfl, hitems⟩ := Option.map_eq_some_iff.mp (hsameList (some _) hlist)
      cases hitems
      rfl
  | loneObject htype hlist hobject =>
      obtain rfl := hsameType _ htype
      obtain rfl := hsameObject (some _) hobject
      obtain rfl := Option.map_eq_none_iff.mp (hsameList none hlist)
      rfl
  | nothing htype hlist hobject =>
      obtain rfl := hsameType _ htype
      obtain rfl := hsameObject none hobject
      obtain rfl := Option.map_eq_none_iff.mp (hsameList none hlist)
      rfl
  | @change event value hevent htype hobject =>
      obtain rfl := hsameType _ htype
      obtain rfl := hsameObject (some _) hobject
      cases event with
      | init items => cases hevent
      | added | modified | deleted =>
          cases hevent
          rfl
  | missingObject hchange htype hobject =>
      obtain rfl := hsameType _ htype
      obtain rfl := hsameObject none hobject
      simp only [List.mem_cons, List.not_mem_nil, or_false] at hchange
      rcases hchange with rfl | rfl | rfl <;> rfl

/-! ## What does not count -/

theorem under_filter_counts {key : String} (hkey : key ∈ ["type", "object", "list"])
    (members : Members) : under key (members.filter counts) = members.under key := by
  rw [under, under, List.filterMap_filter]
  refine List.filterMap_congr fun member _ => ?_
  by_cases hname : member.1 = key
  · have hcounts : counts member = true := by simpa [counts, hname, or_assoc] using hkey
    rw [if_pos hcounts]
  · simp [hname]

theorem under_perm (key : String) (hkey : key ∈ ["type", "object", "list"])
    {members others : Members} (hperm : (members.filter counts).Perm (others.filter counts)) :
    (members.under key).Perm (others.under key) := by
  rw [← under_filter_counts hkey members, ← under_filter_counts hkey others]
  exact hperm.filterMap _

theorem optionalPart?_perm {α : Type} (read : Document → Option (Option α))
    {documents others : List Document} (hperm : documents.Perm others) :
    optionalPart? read documents = optionalPart? read others := by
  match documents, others, hperm.length_eq with
  | [], [], _ => rfl
  | [document], [other], _ => rw [List.singleton_perm_singleton.mp hperm]
  | _ :: _ :: _, _ :: _ :: _, _ => rfl

/-- Neither the order of the members nor any other member makes a difference. -/
theorem ofDocument?_perm {members others : Members}
    (hperm : (members.filter counts).Perm (others.filter counts)) :
    WireFrame.ofDocument? members.document = WireFrame.ofDocument? others.document := by
  refine Option.ext fun frame => ?_
  have htype (document : Document) :
      members.under "type" = [document] ↔ others.under "type" = [document] := by
    rw [← List.perm_singleton, (under_perm "type" (by simp) hperm).congr_left,
      List.perm_singleton]
  have hobject := optionalPart?_perm readObject? (under_perm "object" (by simp) hperm)
  have hlist := optionalPart?_perm readList? (under_perm "list" (by simp) hperm)
  simp only [ofDocument?_eq_some_iff, htype, hobject, hlist]

theorem exists_members {entries : List (Option String × Document)}
    (hreadable : Document.keysReadable entries = true) :
    ∃ members : Members, members.document = .object entries := by
  induction entries with
  | nil => exact ⟨[], rfl⟩
  | cons entry entries ih =>
      obtain ⟨key, value⟩ := entry
      simp only [Document.keysReadable, List.all_cons, Bool.and_eq_true] at hreadable ih
      obtain ⟨members, hmembers⟩ := ih hreadable.2
      obtain ⟨name, rfl⟩ := Option.isSome_iff_exists.mp hreadable.1
      refine ⟨(name, value) :: members, ?_⟩
      rw [document] at hmembers ⊢
      rw [List.map_cons, Document.object.inj hmembers]

end Members

/-- What is read as a frame has a text for each key. -/
theorem WireFrame.ofDocument?_of_not_members {entries : List (Option String × Document)}
    (hother : ∀ members : Members, members.document ≠ .object entries) :
    ofDocument? (.object entries) = none := by
  have hunreadable : Document.keysReadable entries = false := by
    refine Bool.eq_false_iff.mpr fun hreadable => ?_
    obtain ⟨members, hmembers⟩ := Members.exists_members hreadable
    exact hother members hmembers
  simp [ofDocument?, hunreadable]

namespace Frame

open Members

theorem ofWire_ne_malformed (frame : WireFrame) : ofWire frame ≠ .error .malformed := by
  obtain ⟨type, object, list⟩ := frame
  cases type <;> cases object <;> simp [ofWire, needObject]

theorem decode_of_ofText? {text : String} {members : Members}
    (htext : Document.ofText? text = some members.document) :
    decode text = match WireFrame.ofDocument? members.document with
      | some frame => ofWire frame
      | none => .error .malformed := by
  rw [decode, htext]
  rfl

/-- The text of an object is malformed exactly for the reasons of `Malformed`, and otherwise it
has the one meaning of its members. It stays the same if its members are put in another order
or if any but the three that count are added or removed. Only a text with a key that is no text
is an object of other than members. -/
theorem decode_members :
    (∀ (text : String) (members : Members),
      Document.ofText? text = some members.document →
        (decode text = .error .malformed ↔ members.Malformed) ∧
        (¬members.Malformed → ∀ result, decode text = result ↔ members.Means result)) ∧
    (∀ (text changed : String) (members others : Members),
      Document.ofText? text = some members.document →
      Document.ofText? changed = some others.document →
      (members.filter counts).Perm (others.filter counts) →
        decode text = decode changed) ∧
    (∀ (text : String) (entries : List (Option String × Document)),
      Document.ofText? text = some (.object entries) →
      (∀ members : Members, members.document ≠ .object entries) →
        decode text = .error .malformed) := by
  refine ⟨fun text members htext => ?_, fun text changed members others htext hchanged hperm => ?_,
    fun text entries htext hother => ?_⟩
  · rw [decode_of_ofText? htext]
    cases hframe : WireFrame.ofDocument? members.document with
    | none =>
        have hmalformed := ofDocument?_eq_none_iff.mp hframe
        exact ⟨iff_of_true rfl hmalformed, fun hwell => absurd hmalformed hwell⟩
    | some frame =>
        have hwell := not_malformed hframe
        refine ⟨iff_of_false (ofWire_ne_malformed frame) hwell, fun _ result => ?_⟩
        constructor
        · rintro rfl
          exact means_ofWire hframe
        · exact ofWire_of_means hframe
  · rw [decode_of_ofText? htext, decode_of_ofText? hchanged, ofDocument?_perm hperm]
  · rw [decode, htext, Option.bind_some, WireFrame.ofDocument?_of_not_members hother]

/-- A snapshot with an object that does not count. -/
def snapshot : Members :=
  [("list", .array [.bool true]), ("object", .string (some "a")), ("type", .string (some "INIT"))]

/-- The same the other way round, among others with one key. -/
def crowdedSnapshot : Members :=
  ("x", .string none) :: snapshot.reverse ++ [("x", .array [])]

theorem decode_members_crowdedSnapshot :
    decode "\x7b\"list\":[true],\"object\":\"a\",\"type\":\"INIT\"\x7d" =
      .ok (.event (.init [.bool true])) ∧
    decode "\x7b\"x\":\"\\ud800\",\"type\":\"INIT\",\"object\":\"a\",\"list\":[true],\"x\":[]\x7d" =
      .ok (.event (.init [.bool true])) ∧
    decode "\x7b\"type\":\"CLOSED\",\"object\":\"\\ud800\"\x7d" = .error .malformed ∧
    decode "\x7b\"\\ud800\":null,\"type\":\"CLOSED\"\x7d" = .error .malformed := by
  obtain ⟨hmeaning, hsame, hunreadable⟩ := decode_members
  have htext : Document.ofText? "\x7b\"list\":[true],\"object\":\"a\",\"type\":\"INIT\"\x7d" =
      some snapshot.document := by
    simp only [Document.ofText?, String.reduceToList]
    rfl
  have hcrowdedText : Document.ofText?
      "\x7b\"x\":\"\\ud800\",\"type\":\"INIT\",\"object\":\"a\",\"list\":[true],\"x\":[]\x7d" =
      some crowdedSnapshot.document := by
    simp only [Document.ofText?, String.reduceToList]
    rfl
  have hsnapshot : decode "\x7b\"list\":[true],\"object\":\"a\",\"type\":\"INIT\"\x7d" =
      .ok (.event (.init [.bool true])) := by
    have hframe : WireFrame.ofDocument? snapshot.document =
        some ⟨.init, some (.string "a"), some [.bool true]⟩ := rfl
    refine ((hmeaning _ snapshot htext).2 (not_malformed hframe) _).mpr (.list ?_ ?_)
    · exact ⟨.string (some "INIT"), by simp [snapshot], .inl rfl⟩
    · exact ⟨.array [.bool true], by simp [snapshot], by simp, rfl⟩
  have hcounting : (crowdedSnapshot.filter counts).Perm (snapshot.filter counts) :=
    List.reverse_perm snapshot
  refine ⟨hsnapshot, (hsame _ _ _ _ hcrowdedText htext hcounting).trans hsnapshot, ?_, ?_⟩
  · refine (hmeaning _ [("type", .string (some "CLOSED")), ("object", .string none)] ?_).1.mpr ?_
    · simp only [Document.ofText?, String.reduceToList]
      rfl
    · exact .unreadable List.mem_cons_self (List.mem_cons_of_mem _ List.mem_cons_self)
        (.inr .string)
  · refine hunreadable _ [(none, .null), (some "type", .string (some "CLOSED"))] ?_ ?_
    · simp only [Document.ofText?, String.reduceToList]
      rfl
    · rintro (_ | ⟨member, members⟩) <;> simp [document]

end Frame

end ResourceWatch
