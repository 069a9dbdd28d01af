import ResourceWatch.Number.Binary64
import ResourceWatch.OrderedMap

/-! # Data values

The dynamic values that payloads hold. Integers and floating-point numbers are
different values even where they have the same magnitude. The members of an object
are meant to ascend by key, which `Json.Canonical` says and every value that is read
from text satisfies.
-/

namespace ResourceWatch

/-- Whether an integer fits 64 bits, with or without a sign. -/
def WideInt.Fits (n : Int) : Prop :=
  -9223372036854775808 ≤ n ∧ n < 18446744073709551616

instance (n : Int) : Decidable (WideInt.Fits n) := by
  unfold WideInt.Fits; infer_instance

/-- An integer of 64 bits, with or without a sign. -/
structure WideInt where
  val : Int
  inRange : WideInt.Fits val
  deriving DecidableEq, Repr

/-- A number of a data value. -/
inductive Number where
  | int (n : WideInt)
  | float (x : Binary64)
  deriving DecidableEq, Repr

/-- Equality of numbers. The two floating-point zeros are equal, and an integer
equals no floating-point number. -/
def Number.same : Number → Number → Bool
  | int m, int n => m = n
  | float x, float y => x.sameValue y
  | _, _ => false

/-- A data value. -/
inductive Json where
  | null
  | bool (value : Bool)
  | number (value : Number)
  | string (value : String)
  | array (items : List Json)
  | object (members : List (String × Json))

namespace Json

instance : Inhabited Json := ⟨null⟩

/-- What holds of an array if it holds of its items, and of an object if it holds of the
values of its members, holds of every value if it holds of the scalars. -/
theorem induction {motive : Json → Prop} (null : motive null)
    (bool : ∀ value, motive (bool value)) (number : ∀ value, motive (number value))
    (string : ∀ value, motive (string value))
    (array : ∀ items, (∀ item ∈ items, motive item) → motive (array items))
    (object : ∀ members, (∀ member ∈ members, motive member.2) → motive (object members))
    (value : Json) : motive value :=
  @Json.rec motive (fun items => ∀ item ∈ items, motive item)
    (fun members => ∀ member ∈ members, motive member.2) (fun member => motive member.2)
    null bool number string array object
    (fun _ h => by simp at h) (fun _ _ hhead hrest => List.forall_mem_cons.2 ⟨hhead, hrest⟩)
    (fun _ h => by simp at h) (fun _ _ hhead hrest => List.forall_mem_cons.2 ⟨hhead, hrest⟩)
    (fun _ _ h => h) value

mutual

/-- Equality of data values, by the equality of their numbers. -/
def same : Json → Json → Bool
  | null, null => true
  | bool a, bool b => a = b
  | number a, number b => a.same b
  | string a, string b => a = b
  | array xs, array ys => sameItems xs ys
  | object xs, object ys => sameMembers xs ys
  | _, _ => false

/-- Equality of the items of two arrays. -/
def sameItems : List Json → List Json → Bool
  | [], [] => true
  | x :: xs, y :: ys => same x y && sameItems xs ys
  | _, _ => false

/-- Equality of the members of two objects. -/
def sameMembers : List (String × Json) → List (String × Json) → Bool
  | [], [] => true
  | (k, x) :: xs, (l, y) :: ys => k = l && same x y && sameMembers xs ys
  | _, _ => false

end

instance : BEq Json := ⟨same⟩

mutual

/-- The members of every object ascend by key. -/
def Canonical : Json → Prop
  | array items => CanonicalItems items
  | object members => Entries.Ascending members ∧ CanonicalMembers members
  | _ => True

/-- The items of an array are canonical. -/
def CanonicalItems : List Json → Prop
  | [] => True
  | item :: items => Canonical item ∧ CanonicalItems items

/-- The values of the members of an object are canonical. -/
def CanonicalMembers : List (String × Json) → Prop
  | [] => True
  | (_, value) :: members => Canonical value ∧ CanonicalMembers members

end

theorem canonicalItems_iff {items : List Json} :
    CanonicalItems items ↔ ∀ item ∈ items, item.Canonical := by
  induction items with
  | nil => simp [CanonicalItems]
  | cons item items ih => simp [CanonicalItems, ih]

theorem canonicalMembers_iff {members : List (String × Json)} :
    CanonicalMembers members ↔ ∀ member ∈ members, member.2.Canonical := by
  induction members with
  | nil => simp [CanonicalMembers]
  | cons member members ih => simp [CanonicalMembers, ih]

mutual

/-- How deep arrays and objects are nested. A value that is neither has depth
zero. -/
def depth : Json → Nat
  | array items => depthItems items + 1
  | object members => depthMembers members + 1
  | _ => 0

/-- The greatest depth among the items of an array. -/
def depthItems : List Json → Nat
  | [] => 0
  | item :: items => max (depth item) (depthItems items)

/-- The greatest depth among the members of an object. -/
def depthMembers : List (String × Json) → Nat
  | [] => 0
  | (_, value) :: members => max (depth value) (depthMembers members)

end

theorem depthItems_le_iff {items : List Json} {bound : Nat} :
    depthItems items ≤ bound ↔ ∀ item ∈ items, item.depth ≤ bound := by
  induction items with
  | nil => simp [depthItems]
  | cons item items ih => rw [depthItems, Nat.max_le, ih, List.forall_mem_cons]

theorem depthMembers_le_iff {members : List (String × Json)} {bound : Nat} :
    depthMembers members ≤ bound ↔ ∀ member ∈ members, member.2.depth ≤ bound := by
  induction members with
  | nil => simp [depthMembers]
  | cons member members ih => rw [depthMembers, Nat.max_le, ih, List.forall_mem_cons]

/-- The object of a list of members, of which the last with a key stays. -/
def ofMembers (members : List (String × Json)) : Json :=
  object (Entries.ofList members)

/-- The number for a natural number of 64 bits. -/
def ofWord (n : UInt64) : Json :=
  number (.int ⟨n.toNat, by have := n.toNat_lt; unfold WideInt.Fits; omega⟩)

/-! ## Looking into values -/

/-- The text of a string. -/
def asString? : Json → Option String
  | string value => some value
  | _ => none

/-- The truth value of a boolean. -/
def asBool? : Json → Option Bool
  | bool value => some value
  | _ => none

/-- The integer of a number that is one and fits a signed word of 64 bits. -/
def asInt? : Json → Option Int
  | number (.int n) => if n.val < 9223372036854775808 then some n.val else none
  | _ => none

/-- The items of an array. -/
def asArray? : Json → Option (List Json)
  | array items => some items
  | _ => none

/-- The members of an object. -/
def asObject? : Json → Option (List (String × Json))
  | object members => some members
  | _ => none

/-- The value of a member. Only objects have members. -/
def member? (value : Json) (key : String) : Option Json :=
  value.asObject?.bind (Entries.get? key)

/-- The value at the end of a path of member names. -/
def at? (value : Json) : List String → Option Json
  | [] => some value
  | key :: path => (value.member? key).bind fun next => next.at? path

/-- The text at the end of a path. -/
def stringAt? (value : Json) (path : List String) : Option String :=
  (value.at? path).bind asString?

/-- The integer at the end of a path. -/
def intAt? (value : Json) (path : List String) : Option Int :=
  (value.at? path).bind asInt?

/-- The items of the array at the end of a path; none if there is no array. -/
def itemsAt (value : Json) (path : List String) : List Json :=
  ((value.at? path).bind asArray?).getD []

end Json

end ResourceWatch
