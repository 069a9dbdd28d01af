import Mathlib.Data.List.Forall2
import ResourceWatch.Json.Document

/-! # What documents denote

A document denotes a value unless some literal in it denotes nothing. The value has its members
in order whatever their order in the text, and it is nested no deeper than its document.
-/

namespace ResourceWatch

namespace Document

open Json

/-- What holds of an array if it holds of its items, and of an object if it holds of the values
of its members, holds of every document if it holds of the literals. -/
theorem induction {motive : Document → Prop} (null : motive null)
    (bool : ∀ value, motive (bool value)) (number : ∀ value, motive (number value))
    (string : ∀ value, motive (string value))
    (array : ∀ items, (∀ item ∈ items, motive item) → motive (array items))
    (object : ∀ members, (∀ member ∈ members, motive member.2) → motive (object members))
    (document : Document) : motive document :=
  @Document.rec motive (fun items => ∀ item ∈ items, motive item)
    (fun members => ∀ member ∈ members, motive member.2) (fun member => motive member.2)
    null bool number string array object
    (fun _ h => by simp at h) (fun _ _ hhead hrest => List.forall_mem_cons.2 ⟨hhead, hrest⟩)
    (fun _ h => by simp at h) (fun _ _ hhead hrest => List.forall_mem_cons.2 ⟨hhead, hrest⟩)
    (fun _ _ h => h) document

/-- Whether a document holds a literal that denotes nothing: a number beyond the largest one, or
a lone surrogate in a string or a key. -/
inductive Faulty : Document → Prop where
  | number : Faulty (number none)
  | string : Faulty (string none)
  | item {items : List Document} {item : Document} (hmem : item ∈ items)
      (hfaulty : Faulty item) : Faulty (array items)
  | key {members : List (Option String × Document)} {value : Document}
      (hmem : (none, value) ∈ members) : Faulty (object members)
  | member {members : List (Option String × Document)} {member : Option String × Document}
      (hmem : member ∈ members) (hfaulty : Faulty member.2) : Faulty (object members)

theorem not_faulty_null : ¬Faulty null := nofun

/-! ## Items and members -/

theorem values?_eq_some_iff {items : List Document} {values : List Json} :
    values? items = some values ↔
      List.Forall₂ (fun item value => item.value? = some value) items values := by
  induction items generalizing values with
  | nil => simp [values?, eq_comm]
  | cons item items ih =>
      simp only [values?, Option.bind_eq_some_iff, Option.map_eq_some_iff, ih,
        List.forall₂_cons_left_iff]
      constructor
      · rintro ⟨first, hfirst, rest, hrest, rfl⟩
        exact ⟨first, rest, hfirst, hrest, rfl⟩
      · rintro ⟨first, rest, hfirst, hrest, rfl⟩
        exact ⟨first, hfirst, rest, hrest, rfl⟩

theorem memberValues?_eq_some_iff {members : List (Option String × Document)}
    {values : List (String × Json)} :
    memberValues? members = some values ↔
      List.Forall₂ (fun member value => member.1 = some value.1 ∧ member.2.value? = some value.2)
        members values := by
  induction members generalizing values with
  | nil => simp [memberValues?, eq_comm]
  | cons member members ih =>
      simp only [memberValues?, Option.bind_eq_some_iff, Option.map_eq_some_iff, ih,
        List.forall₂_cons_left_iff]
      constructor
      · rintro ⟨key, hkey, first, hfirst, rest, hrest, rfl⟩
        exact ⟨(key, first), rest, ⟨hkey, hfirst⟩, hrest, rfl⟩
      · rintro ⟨⟨key, first⟩, rest, ⟨hkey, hfirst⟩, hrest, rfl⟩
        exact ⟨key, hkey, first, hfirst, rest, hrest, rfl⟩

theorem values?_eq_none_iff {items : List Document} :
    values? items = none ↔ ∃ item ∈ items, item.value? = none := by
  induction items with
  | nil => simp [values?]
  | cons item items ih =>
      rw [List.exists_mem_cons_iff, ← ih, values?]
      cases item.value? <;> simp

theorem memberValues?_eq_none_iff {members : List (Option String × Document)} :
    memberValues? members = none ↔
      ∃ member ∈ members, member.1 = none ∨ member.2.value? = none := by
  induction members with
  | nil => simp [memberValues?]
  | cons member members ih =>
      obtain ⟨key, value⟩ := member
      rw [List.exists_mem_cons_iff, ← ih, memberValues?]
      cases key <;> cases value.value? <;> simp

/-! ## Documents -/

/-- A document denotes nothing exactly if it holds a literal that does. -/
theorem value?_eq_none_iff {document : Document} :
    document.value? = none ↔ document.Faulty := by
  induction document using Document.induction with
  | null => simpa [value?] using not_faulty_null
  | bool value => simpa [value?] using fun h : Faulty (bool value) => nomatch h
  | number value =>
      cases value with
      | none => simpa [value?] using Faulty.number
      | some n => simpa [value?] using fun h : Faulty (number (some n)) => nomatch h
  | string value =>
      cases value with
      | none => simpa [value?] using Faulty.string
      | some text => simpa [value?] using fun h : Faulty (string (some text)) => nomatch h
  | array items ih =>
      rw [value?, Option.map_eq_none_iff, values?_eq_none_iff]
      constructor
      · rintro ⟨item, hmem, hnone⟩
        exact .item hmem ((ih item hmem).mp hnone)
      · rintro (_ | _ | ⟨hmem, hfaulty⟩)
        exact ⟨_, hmem, (ih _ hmem).mpr hfaulty⟩
  | object members ih =>
      rw [value?, Option.map_eq_none_iff, memberValues?_eq_none_iff]
      constructor
      · rintro ⟨⟨key, value⟩, hmem, hkey | hnone⟩
        · obtain rfl : key = none := hkey
          exact .key hmem
        · exact .member hmem ((ih _ hmem).mp hnone)
      · rintro (_ | _ | _ | hmem | ⟨hmem, hfaulty⟩)
        · exact ⟨_, hmem, .inl rfl⟩
        · exact ⟨_, hmem, .inr ((ih _ hmem).mpr hfaulty)⟩

theorem exists_mem_of_forall₂ {α β : Type} {R : α → β → Prop} {as : List α} {bs : List β}
    (hall : List.Forall₂ R as bs) {b : β} (hmem : b ∈ bs) : ∃ a ∈ as, R a b := by
  induction hall with
  | nil => cases hmem
  | cons hfirst _ ih =>
      rcases List.mem_cons.mp hmem with rfl | hmem
      · exact ⟨_, List.mem_cons_self, hfirst⟩
      · obtain ⟨a, ha, hrelated⟩ := ih hmem
        exact ⟨a, List.mem_cons_of_mem _ ha, hrelated⟩

/-- The items of a value come from the items of its document. -/
theorem exists_item_of_mem {items : List Document} {values : List Json}
    (hvalues : values? items = some values) {value : Json} (hmem : value ∈ values) :
    ∃ item ∈ items, item.value? = some value :=
  exists_mem_of_forall₂ (values?_eq_some_iff.mp hvalues) hmem

theorem exists_member_of_mem {members : List (Option String × Document)}
    {values : List (String × Json)} (hvalues : memberValues? members = some values)
    {value : String × Json} (hmem : value ∈ Entries.ofList values) :
    ∃ member ∈ members, member.2.value? = some value.2 := by
  obtain ⟨member, hmember, -, hvalue⟩ :=
    exists_mem_of_forall₂ (memberValues?_eq_some_iff.mp hvalues) (Entries.mem_of_mem_ofList hmem)
  exact ⟨member, hmember, hvalue⟩

/-- The members of every object of a value are in order, whatever their order in the text. -/
theorem canonical_of_value? {document : Document} {value : Json}
    (hvalue : document.value? = some value) : value.Canonical := by
  induction document using Document.induction generalizing value with
  | null | bool =>
      cases hvalue
      trivial
  | number n | string text =>
      obtain ⟨_, -, rfl⟩ := Option.map_eq_some_iff.mp hvalue
      trivial
  | array items ih =>
      obtain ⟨values, hvalues, rfl⟩ := Option.map_eq_some_iff.mp hvalue
      rw [Canonical, canonicalItems_iff]
      intro item hitem
      obtain ⟨document, hdocument, hitem⟩ := exists_item_of_mem hvalues hitem
      exact ih document hdocument hitem
  | object members ih =>
      obtain ⟨values, hvalues, rfl⟩ := Option.map_eq_some_iff.mp hvalue
      rw [Json.ofMembers, Canonical, canonicalMembers_iff]
      refine ⟨Entries.ascending_ofList values, fun member hmember => ?_⟩
      obtain ⟨document, hdocument, hmember⟩ := exists_member_of_mem hvalues hmember
      exact ih document hdocument hmember

theorem depth_le_depthItems {items : List Document} {item : Document} (hmem : item ∈ items) :
    item.depth ≤ depthItems items := by
  induction items with
  | nil => cases hmem
  | cons first rest ih =>
      rw [depthItems]
      rcases List.mem_cons.mp hmem with rfl | hmem
      · exact Nat.le_max_left _ _
      · exact Nat.le_trans (ih hmem) (Nat.le_max_right _ _)

theorem depth_le_depthMembers {members : List (Option String × Document)}
    {member : Option String × Document} (hmem : member ∈ members) :
    member.2.depth ≤ depthMembers members := by
  induction members with
  | nil => cases hmem
  | cons first rest ih =>
      rw [depthMembers]
      rcases List.mem_cons.mp hmem with rfl | hmem
      · exact Nat.le_max_left _ _
      · exact Nat.le_trans (ih hmem) (Nat.le_max_right _ _)

/-- A value is nested no deeper than its document. It can be less deep, since only the last
member with a key counts. -/
theorem depth_le_of_value? {document : Document} {value : Json}
    (hvalue : document.value? = some value) : value.depth ≤ document.depth := by
  induction document using Document.induction generalizing value with
  | null | bool =>
      cases hvalue
      exact Nat.le_refl 0
  | number n | string text =>
      obtain ⟨_, -, rfl⟩ := Option.map_eq_some_iff.mp hvalue
      exact Nat.le_refl 0
  | array items ih =>
      obtain ⟨values, hvalues, rfl⟩ := Option.map_eq_some_iff.mp hvalue
      rw [Json.depth, depth]
      refine Nat.succ_le_succ (Json.depthItems_le_iff.mpr fun item hitem => ?_)
      obtain ⟨document, hdocument, hitem⟩ := exists_item_of_mem hvalues hitem
      exact Nat.le_trans (ih document hdocument hitem) (depth_le_depthItems hdocument)
  | object members ih =>
      obtain ⟨values, hvalues, rfl⟩ := Option.map_eq_some_iff.mp hvalue
      rw [Json.ofMembers, Json.depth, depth]
      refine Nat.succ_le_succ (Json.depthMembers_le_iff.mpr fun member hmember => ?_)
      obtain ⟨document, hdocument, hmember⟩ := exists_member_of_mem hvalues hmember
      exact Nat.le_trans (ih _ hdocument hmember) (depth_le_depthMembers hdocument)

end Document

end ResourceWatch
