import ResourceWatch.Json.Value

/-! # Equality of data values

Two data values count as equal if nothing but the signs of zeros tells them apart. With the
signs of all zeros taken away, equality of values is plain equality, and so it is an
equivalence.
-/

namespace ResourceWatch

/-- A number without the sign of a zero. -/
def Number.unsigned : Number → Number
  | int n => int n
  | float x => if x.isZero then float (.zero false) else float x

theorem Binary64.sameValue_iff (x y : Binary64) :
    x.sameValue y = true ↔ (x.isZero = true ∧ y.isZero = true) ∨ x = y := by
  simp [sameValue]

theorem Number.same_iff (m n : Number) : m.same n = true ↔ m.unsigned = n.unsigned := by
  cases m with
  | int m =>
      cases n with
      | int n => simp [same, unsigned]
      | float y =>
          simp only [same, unsigned]
          split <;> simp
  | float x =>
      cases n with
      | int n =>
          simp only [same, unsigned]
          split <;> simp
      | float y =>
          have hzero : (Binary64.zero false).isZero = true := rfl
          rw [same, Binary64.sameValue_iff, unsigned, unsigned]
          -- A zero equals every zero, and no other number.
          by_cases hx : x.isZero <;> by_cases hy : y.isZero <;> simp only [hx, hy] <;> grind

namespace Json

mutual

/-- A value without the signs of its zeros. -/
def unsigned : Json → Json
  | number value => number value.unsigned
  | array items => array (unsignedItems items)
  | object members => object (unsignedMembers members)
  | value => value

/-- The items of an array without the signs of their zeros. -/
def unsignedItems : List Json → List Json
  | [] => []
  | item :: items => unsigned item :: unsignedItems items

/-- The members of an object without the signs of their zeros. -/
def unsignedMembers : List (String × Json) → List (String × Json)
  | [] => []
  | (key, value) :: members => (key, unsigned value) :: unsignedMembers members

end

theorem sameItems_iff {items : List Json}
    (hitems : ∀ item ∈ items, ∀ other, item.same other = true ↔ item.unsigned = other.unsigned)
    (others : List Json) :
    sameItems items others = true ↔ unsignedItems items = unsignedItems others := by
  induction items generalizing others with
  | nil => cases others <;> simp [sameItems, unsignedItems]
  | cons item rest ih =>
      obtain ⟨hitem, hrest⟩ := List.forall_mem_cons.mp hitems
      cases others with
      | nil => simp [sameItems, unsignedItems]
      | cons other others => simp [sameItems, unsignedItems, hitem other, ih hrest others]

theorem sameMembers_iff {members : List (String × Json)}
    (hmembers : ∀ member ∈ members, ∀ other,
      member.2.same other = true ↔ member.2.unsigned = other.unsigned)
    (others : List (String × Json)) :
    sameMembers members others = true ↔ unsignedMembers members = unsignedMembers others := by
  induction members generalizing others with
  | nil => cases others <;> simp [sameMembers, unsignedMembers]
  | cons member rest ih =>
      obtain ⟨hmember, hrest⟩ := List.forall_mem_cons.mp hmembers
      cases others with
      | nil => simp [sameMembers, unsignedMembers]
      | cons other others =>
          simp [sameMembers, unsignedMembers, hmember other.2, ih hrest others, and_assoc]

theorem beq_iff_unsigned_eq (value other : Json) :
    (value == other) = true ↔ value.unsigned = other.unsigned := by
  change value.same other = true ↔ _
  induction value using Json.induction generalizing other with
  | null => cases other <;> simp [same, unsigned]
  | bool value => cases other <;> simp [same, unsigned]
  | number value => cases other <;> simp [same, unsigned, Number.same_iff]
  | string value => cases other <;> simp [same, unsigned]
  | array items ih =>
      cases other with
      | array others => simp [same, unsigned, sameItems_iff ih]
      | _ => simp [same, unsigned]
  | object members ih =>
      cases other with
      | object others => simp [same, unsigned, sameMembers_iff ih]
      | _ => simp [same, unsigned]

instance : EquivBEq Json where
  rfl {value} := (beq_iff_unsigned_eq value value).mpr rfl
  symm {a b} h := (beq_iff_unsigned_eq b a).mpr ((beq_iff_unsigned_eq a b).mp h).symm
  trans {a b c} hab hbc :=
    (beq_iff_unsigned_eq a c).mpr
      (((beq_iff_unsigned_eq a b).mp hab).trans ((beq_iff_unsigned_eq b c).mp hbc))

end Json

end ResourceWatch
