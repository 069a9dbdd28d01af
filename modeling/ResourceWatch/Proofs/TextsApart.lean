import ResourceWatch.Proofs.FloatText

/-! # Texts of values tell the values apart

The compact text of a value determines the value, also a value with floating-point numbers.
More than that, the text of a value in front of a comma or a closing bracket determines where
it ends, so that items and members can be told apart one after the other.
-/

namespace ResourceWatch.Json

/-! ## First characters -/

/-- The forms of values that their first character tells apart. -/
inductive Form where
  | null
  | bool
  | number
  | string
  | array
  | object
  deriving DecidableEq

def form : Json → Form
  | null => .null
  | bool _ => .bool
  | number _ => .number
  | string _ => .string
  | array _ => .array
  | object _ => .object

/-- The form of the values that start with a character. -/
def formOf (c : Char) : Form :=
  if c = 'n' then .null
  else if c = 't' ∨ c = 'f' then .bool
  else if c = '"' then .string
  else if c = '[' then .array
  else if c = '\x7b' then .object
  else .number

/-- A value starts with a character of its form, which ends no value. -/
theorem write_eq_cons (value : Json) :
    ∃ c tail, write value = c :: tail ∧ formOf c = value.form ∧ c ≠ ']' := by
  cases value with
  | null => exact ⟨_, _, rfl, rfl, by decide⟩
  | bool value => cases value <;> exact ⟨_, _, rfl, rfl, by decide⟩
  | number value =>
      obtain ⟨c, tail, hwrite, hne⟩ := writeNumber_eq_cons value
      refine ⟨c, tail, hwrite, ?_, hne ']' (by decide) rfl⟩
      simp [formOf, form, hne 'n' (by decide) rfl, hne 't' (by decide) rfl,
        hne 'f' (by decide) rfl, hne '"' (by decide) rfl, hne '[' (by decide) rfl,
        hne '\x7b' (by decide) rfl]
  | string value => exact ⟨_, _, rfl, rfl, by decide⟩
  | array items => exact ⟨_, _, rfl, rfl, by decide⟩
  | object members => exact ⟨_, _, rfl, rfl, by decide⟩

theorem form_eq {value other : Json} {rest tail : List Char}
    (htext : write value ++ rest = write other ++ tail) : value.form = other.form := by
  obtain ⟨c, text, hwrite, hform, -⟩ := value.write_eq_cons
  obtain ⟨d, more, hother, hformOther, -⟩ := other.write_eq_cons
  rw [hwrite, hother, List.cons_append, List.cons_append] at htext
  rw [← hform, ← hformOther, List.head_eq_of_cons_eq htext]

/-! ## One value after the other -/

/-- Whether the text of a value in front of an end determines the value and what follows. -/
def Determined (value : Json) : Prop :=
  ∀ other rest tail, EndsValue rest → EndsValue tail →
    write value ++ rest = write other ++ tail → value = other ∧ rest = tail

theorem eq_of_writeString {value other : String} {rest tail : List Char}
    (htext : writeString value ++ rest = writeString other ++ tail) :
    value = other ∧ rest = tail := by
  have hvalue := readString_writeString value rest
  have hother := readString_writeString other tail
  have hinner : value.toList.flatMap escape ++ '"' :: rest =
      other.toList.flatMap escape ++ '"' :: tail := by
    simpa [writeString] using htext
  rw [hinner, hother] at hvalue
  simpa [eq_comm] using hvalue

theorem determined_of_form {value : Json}
    (hsame : ∀ other rest tail, other.form = value.form → EndsValue rest → EndsValue tail →
      write value ++ rest = write other ++ tail → value = other ∧ rest = tail) :
    value.Determined :=
  fun other rest tail hrest htail htext =>
    hsame other rest tail (form_eq htext).symm hrest htail htext

theorem determined_null : Determined .null := by
  apply determined_of_form
  intro other rest tail hform hrest htail htext
  cases other with
  | null => exact ⟨rfl, List.append_cancel_left htext⟩
  | bool | number | string | array | object => cases hform

theorem determined_bool (value : Bool) : Determined (.bool value) := by
  apply determined_of_form
  intro other rest tail hform hrest htail htext
  cases other with
  | bool flag => cases value <;> cases flag <;> simp_all [write]
  | null | number | string | array | object => cases hform

theorem determined_number (value : Number) : Determined (.number value) := by
  apply determined_of_form
  intro other rest tail hform hrest htail htext
  cases other with
  | number n =>
      obtain ⟨rfl, hsame⟩ := eq_of_writeNumber hrest htail htext
      exact ⟨rfl, hsame⟩
  | null | bool | string | array | object => cases hform

theorem determined_string (value : String) : Determined (.string value) := by
  apply determined_of_form
  intro other rest tail hform hrest htail htext
  cases other with
  | string text =>
      obtain ⟨rfl, hsame⟩ := eq_of_writeString htext
      exact ⟨rfl, hsame⟩
  | null | bool | number | array | object => cases hform

/-! ## Items and members -/

/-- What follows an item: a comma and the other items, or the closing bracket. -/
def afterItem (items : List Json) (rest : List Char) : List Char :=
  match items with
  | [] => ']' :: rest
  | item :: items => ',' :: (writeItems (item :: items) ++ ']' :: rest)

theorem writeItems_cons (item : Json) (items : List Json) (rest : List Char) :
    writeItems (item :: items) ++ ']' :: rest = write item ++ afterItem items rest := by
  cases items with
  | nil => rfl
  | cons next items => simp [writeItems, afterItem]

theorem endsValue_afterItem (items : List Json) (rest : List Char) :
    EndsValue (afterItem items rest) := by
  cases items with
  | nil => exact .inr (.inl rfl)
  | cons item items => exact .inl rfl

theorem writeItems_of_afterItem {items others : List Json} {rest tail : List Char}
    (hafter : afterItem items rest = afterItem others tail) :
    writeItems items ++ ']' :: rest = writeItems others ++ ']' :: tail := by
  cases items <;> cases others <;> simp_all [afterItem, writeItems]

/-- No item starts with the closing bracket. -/
theorem writeItems_ne (item : Json) (items : List Json) (rest tail : List Char) :
    writeItems (item :: items) ++ ']' :: rest ≠ ']' :: tail := by
  obtain ⟨c, text, hwrite, -, hc⟩ := item.write_eq_cons
  rw [writeItems_cons, hwrite, List.cons_append]
  exact fun htext => hc (List.head_eq_of_cons_eq htext)

theorem eq_of_writeItems {items others : List Json} {rest tail : List Char}
    (hitems : ∀ item ∈ items, item.Determined)
    (htext : writeItems items ++ ']' :: rest = writeItems others ++ ']' :: tail) :
    items = others ∧ rest = tail := by
  induction items generalizing others with
  | nil =>
      cases others with
      | nil => exact ⟨rfl, List.tail_eq_of_cons_eq htext⟩
      | cons other others => exact absurd htext.symm (writeItems_ne other others _ _)
  | cons item items ih =>
      cases others with
      | nil => exact absurd htext (writeItems_ne item items _ _)
      | cons other others =>
          obtain ⟨hitem, hitems⟩ := List.forall_mem_cons.mp hitems
          rw [writeItems_cons, writeItems_cons] at htext
          obtain ⟨rfl, hafter⟩ := hitem other _ _ (endsValue_afterItem items rest)
            (endsValue_afterItem others tail) htext
          obtain ⟨rfl, hsame⟩ := ih hitems (writeItems_of_afterItem hafter)
          exact ⟨rfl, hsame⟩

theorem determined_array {items : List Json} (hitems : ∀ item ∈ items, item.Determined) :
    Determined (.array items) := by
  apply determined_of_form
  intro other rest tail hform hrest htail htext
  cases other with
  | array others =>
      have hinner : writeItems items ++ ']' :: rest = writeItems others ++ ']' :: tail := by
        simpa [write] using htext
      obtain ⟨rfl, hsame⟩ := eq_of_writeItems hitems hinner
      exact ⟨rfl, hsame⟩
  | null | bool | number | string | object => cases hform

/-- What follows a member: a comma and the other members, or the closing brace. -/
def afterMember (members : List (String × Json)) (rest : List Char) : List Char :=
  match members with
  | [] => '\x7d' :: rest
  | member :: members => ',' :: (writeMembers (member :: members) ++ '\x7d' :: rest)

theorem writeMembers_cons (key : String) (value : Json) (members : List (String × Json))
    (rest : List Char) :
    writeMembers ((key, value) :: members) ++ '\x7d' :: rest =
      writeString key ++ (':' :: (write value ++ afterMember members rest)) := by
  cases members with
  | nil => simp [writeMembers, afterMember]
  | cons next members => simp [writeMembers, afterMember]

theorem endsValue_afterMember (members : List (String × Json)) (rest : List Char) :
    EndsValue (afterMember members rest) := by
  cases members with
  | nil => exact .inr (.inr rfl)
  | cons member members => exact .inl rfl

theorem writeMembers_of_afterMember {members others : List (String × Json)}
    {rest tail : List Char} (hafter : afterMember members rest = afterMember others tail) :
    writeMembers members ++ '\x7d' :: rest = writeMembers others ++ '\x7d' :: tail := by
  cases members <;> cases others <;> simp_all [afterMember, writeMembers]

/-- No member starts with the closing brace. -/
theorem writeMembers_ne (member : String × Json) (members : List (String × Json))
    (rest tail : List Char) :
    writeMembers (member :: members) ++ '\x7d' :: rest ≠ '\x7d' :: tail := by
  rw [writeMembers_cons]
  simp [writeString]

theorem eq_of_writeMembers {members others : List (String × Json)} {rest tail : List Char}
    (hmembers : ∀ member ∈ members, member.2.Determined)
    (htext : writeMembers members ++ '\x7d' :: rest = writeMembers others ++ '\x7d' :: tail) :
    members = others ∧ rest = tail := by
  induction members generalizing others with
  | nil =>
      cases others with
      | nil => exact ⟨rfl, List.tail_eq_of_cons_eq htext⟩
      | cons other others => exact absurd htext.symm (writeMembers_ne other others _ _)
  | cons member members ih =>
      cases others with
      | nil => exact absurd htext (writeMembers_ne member members _ _)
      | cons other others =>
          obtain ⟨key, value⟩ := member
          obtain ⟨otherKey, otherValue⟩ := other
          obtain ⟨hvalue, hmembers⟩ := List.forall_mem_cons.mp hmembers
          rw [writeMembers_cons, writeMembers_cons] at htext
          obtain ⟨rfl, hbehind⟩ := eq_of_writeString htext
          obtain ⟨rfl, hafter⟩ := hvalue otherValue _ _ (endsValue_afterMember members rest)
            (endsValue_afterMember others tail) (List.tail_eq_of_cons_eq hbehind)
          obtain ⟨rfl, hsame⟩ := ih hmembers (writeMembers_of_afterMember hafter)
          exact ⟨rfl, hsame⟩

theorem determined_object {members : List (String × Json)}
    (hmembers : ∀ member ∈ members, member.2.Determined) : Determined (.object members) := by
  apply determined_of_form
  intro other rest tail hform hrest htail htext
  cases other with
  | object others =>
      have hinner : writeMembers members ++ '\x7d' :: rest =
          writeMembers others ++ '\x7d' :: tail := by
        simpa [write] using htext
      obtain ⟨rfl, hsame⟩ := eq_of_writeMembers hmembers hinner
      exact ⟨rfl, hsame⟩
  | null | bool | number | string | array => cases hform

/-! ## Texts -/

/-- Every value is determined by its text. -/
theorem determined (value : Json) : value.Determined := by
  induction value using Json.induction with
  | null => exact determined_null
  | bool value => exact determined_bool value
  | number value => exact determined_number value
  | string value => exact determined_string value
  | array items ih => exact determined_array ih
  | object members ih => exact determined_object ih

theorem render_injective : Function.Injective render := by
  intro value other hrender
  have hwrite : write value = write other := String.ofList_injective hrender
  exact (determined value other [] [] trivial trivial (by rw [hwrite])).1

end ResourceWatch.Json
