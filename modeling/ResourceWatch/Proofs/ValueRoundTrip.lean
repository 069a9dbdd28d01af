import ResourceWatch.Json.Document
import ResourceWatch.Proofs.LiteralRoundTrip

/-! # Values that are written are read back

The compact text of a value without floating-point numbers is read as one document, and
the document denotes the value. Only the second step needs the members of objects to be
in order: a text keeps whatever order its members have.
-/

namespace ResourceWatch

namespace Json

mutual

/-- All numbers are integers. -/
def Integral : Json → Prop
  | number value => ∃ n : WideInt, value = .int n
  | array items => IntegralItems items
  | object members => IntegralMembers members
  | _ => True

/-- All numbers in the items of an array are integers. -/
def IntegralItems : List Json → Prop
  | [] => True
  | item :: items => Integral item ∧ IntegralItems items

/-- All numbers in the values of the members of an object are integers. -/
def IntegralMembers : List (String × Json) → Prop
  | [] => True
  | (_, value) :: members => Integral value ∧ IntegralMembers members

end

theorem integralItems_iff {items : List Json} :
    IntegralItems items ↔ ∀ item ∈ items, item.Integral := by
  induction items with
  | nil => simp [IntegralItems]
  | cons item items ih => simp [IntegralItems, ih]

theorem integralMembers_iff {members : List (String × Json)} :
    IntegralMembers members ↔ ∀ member ∈ members, member.2.Integral := by
  induction members with
  | nil => simp [IntegralMembers]
  | cons member members ih => simp [IntegralMembers, ih]

end Json

namespace Document

open Json

mutual

/-- The document of a value as it is written. -/
def ofJson : Json → Document
  | .null => null
  | .bool value => bool value
  | .number value => number (some value)
  | .string value => string (some value)
  | .array items => array (ofItems items)
  | .object members => object (ofMembers members)

/-- The documents of the items of an array. -/
def ofItems : List Json → List Document
  | [] => []
  | item :: items => ofJson item :: ofItems items

/-- The documents of the members of an object. -/
def ofMembers : List (String × Json) → List (Option String × Document)
  | [] => []
  | (key, value) :: members => (some key, ofJson value) :: ofMembers members

end

/-! ## What a document of a value says -/

theorem depthItems_ofItems {items : List Json}
    (hitems : ∀ item ∈ items, (ofJson item).depth = item.depth) :
    depthItems (ofItems items) = Json.depthItems items := by
  induction items with
  | nil => rfl
  | cons item items ih =>
      rw [List.forall_mem_cons] at hitems
      simp [ofItems, depthItems, Json.depthItems, hitems.1, ih hitems.2]

theorem depthMembers_ofMembers {members : List (String × Json)}
    (hmembers : ∀ member ∈ members, (ofJson member.2).depth = member.2.depth) :
    depthMembers (ofMembers members) = Json.depthMembers members := by
  induction members with
  | nil => rfl
  | cons member members ih =>
      rw [List.forall_mem_cons] at hmembers
      simp [ofMembers, depthMembers, Json.depthMembers, hmembers.1, ih hmembers.2]

/-- A document is nested as deep as its value. -/
theorem depth_ofJson (value : Json) : (ofJson value).depth = value.depth := by
  induction value using Json.induction with
  | null | bool | number | string => rfl
  | array items ih => rw [ofJson, depth, Json.depth, depthItems_ofItems ih]
  | object members ih => rw [ofJson, depth, Json.depth, depthMembers_ofMembers ih]

theorem values?_ofItems {items : List Json}
    (hitems : ∀ item ∈ items, (ofJson item).value? = some item) :
    values? (ofItems items) = some items := by
  induction items with
  | nil => rfl
  | cons item items ih =>
      rw [List.forall_mem_cons] at hitems
      simp [ofItems, values?, hitems.1, ih hitems.2]

theorem memberValues?_ofMembers {members : List (String × Json)}
    (hmembers : ∀ member ∈ members, (ofJson member.2).value? = some member.2) :
    memberValues? (ofMembers members) = some members := by
  induction members with
  | nil => rfl
  | cons member members ih =>
      rw [List.forall_mem_cons] at hmembers
      simp [ofMembers, memberValues?, hmembers.1, ih hmembers.2]

/-- The document of a value with members in order denotes this value. -/
theorem value?_ofJson {value : Json} (hcanonical : value.Canonical) :
    (ofJson value).value? = some value := by
  induction value using Json.induction with
  | null | bool | number | string => rfl
  | array items ih =>
      rw [Canonical, canonicalItems_iff] at hcanonical
      have hitems := values?_ofItems fun item hitem => ih item hitem (hcanonical item hitem)
      rw [ofJson, value?, hitems, Option.map_some]
  | object members ih =>
      rw [Canonical, canonicalMembers_iff] at hcanonical
      obtain ⟨hascending, hvalues⟩ := hcanonical
      have hmembers := memberValues?_ofMembers fun member hmember =>
        ih member hmember (hvalues member hmember)
      rw [ofJson, value?, hmembers, Option.map_some, Json.ofMembers, hascending.ofList_eq]

/-! ## Reading what is written -/

/-- Whether a text goes on with a character that may start a value or a member: one
that is not passed over and closes nothing. -/
def StartsValue : List Char → Prop
  | [] => False
  | c :: _ => isSpace c = false ∧ c ≠ ']' ∧ c ≠ '\x7d'

theorem skipSpace_of_startsValue {text : List Char} (hstarts : StartsValue text) :
    skipSpace text = text := by
  cases text with
  | nil => rfl
  | cons c text => simp [skipSpace, hstarts.1]

theorem startsValue_writeInt (n : Int) (rest : List Char) :
    StartsValue (writeInt n ++ rest) := by
  obtain ⟨c, tail, hwrite, hne⟩ := writeInt_eq_cons n
  rw [hwrite]
  refine ⟨?_, hne ']' (by decide) rfl, hne '\x7d' (by decide) rfl⟩
  simp [isSpace, hne ' ' (by decide) rfl, hne '\t' (by decide) rfl, hne '\n' (by decide) rfl,
    hne '\r' (by decide) rfl]

theorem startsValue_write {value : Json} (hintegral : value.Integral) (rest : List Char) :
    StartsValue (write value ++ rest) := by
  cases value with
  | null => exact ⟨rfl, by decide, by decide⟩
  | bool value => cases value <;> exact ⟨rfl, by decide, by decide⟩
  | number value =>
      rw [Integral] at hintegral
      obtain ⟨n, rfl⟩ := hintegral
      exact startsValue_writeInt n.val rest
  | string value => exact ⟨rfl, by decide, by decide⟩
  | array items => exact ⟨rfl, by decide, by decide⟩
  | object members => exact ⟨rfl, by decide, by decide⟩

/-- Whether a value is read back from its text, with as much fuel as a text is given. -/
def ReadsBack (value : Json) : Prop :=
  ∀ fuel rest, 2 * (write value).length < fuel → EndsValue rest →
    read fuel (write value ++ rest) = some (ofJson value, rest)

theorem ReadsBack.of_succ {value : Json}
    (hread : ∀ fuel rest, 2 * (write value).length ≤ fuel → EndsValue rest →
      read (fuel + 1) (write value ++ rest) = some (ofJson value, rest)) : ReadsBack value := by
  intro fuel rest hfuel hrest
  obtain ⟨fuel, rfl⟩ := Nat.exists_eq_succ_of_ne_zero (Nat.ne_zero_of_lt hfuel)
  exact hread fuel rest (Nat.le_of_lt_succ hfuel) hrest

theorem read_of_scalar {c : Char} {text : List Char} (hspace : isSpace c = false)
    (hbracket : c ≠ '[') (hbrace : c ≠ '\x7b') (fuel : Nat) :
    read (fuel + 1) (c :: text) = readScalar (c :: text) := by
  simp [read, skipSpace, hspace, hbracket, hbrace]

theorem readsBack_null : ReadsBack .null := by
  apply ReadsBack.of_succ
  intro fuel rest hfuel hrest
  exact read_of_scalar rfl (by decide) (by decide) fuel

theorem readsBack_bool (value : Bool) : ReadsBack (.bool value) := by
  apply ReadsBack.of_succ
  intro fuel rest hfuel hrest
  cases value with
  | false => exact read_of_scalar rfl (by decide) (by decide) fuel
  | true => exact read_of_scalar rfl (by decide) (by decide) fuel

theorem readsBack_string (value : String) : ReadsBack (.string value) := by
  apply ReadsBack.of_succ
  intro fuel rest hfuel hrest
  have hread := readString_writeString value rest
  simp [write, writeString, read_of_scalar, isSpace, readScalar, hread, ofJson]

theorem readsBack_number (n : WideInt) : ReadsBack (.number (.int n)) := by
  apply ReadsBack.of_succ
  intro fuel rest hfuel hrest
  obtain ⟨c, tail, hwrite, hne⟩ := writeInt_eq_cons n.val
  obtain ⟨literal, hread, hvalue⟩ := NumberLiteral.read_writeInt n hrest
  have hstarts := startsValue_writeInt n.val rest
  rw [hwrite, List.cons_append] at hread hstarts
  -- No other scalar starts like this.
  have hscalar : readScalar (c :: (tail ++ rest)) =
      (NumberLiteral.read (c :: (tail ++ rest))).map fun result =>
        (number result.1.value?, result.2) := by
    simp [readScalar, hne '"' (by decide) rfl, hne 'n' (by decide) rfl,
      hne 't' (by decide) rfl, hne 'f' (by decide) rfl]
  rw [write, writeNumber, hwrite, List.cons_append,
    read_of_scalar hstarts.1 (hne '[' (by decide) rfl) (hne '\x7b' (by decide) rfl), hscalar,
    hread]
  simp [hvalue, ofJson]

/-! ### Arrays -/

theorem readItems_of_last {fuel : Nat} {text tail : List Char} {item : Document}
    (hread : read fuel text = some (item, ']' :: tail)) :
    readItems (fuel + 1) text = some ([item], tail) := by
  simp [readItems, hread, skipSpace, isSpace]

theorem readItems_of_more {fuel : Nat} {text more : List Char} {item : Document}
    (hread : read fuel text = some (item, ',' :: more)) :
    readItems (fuel + 1) text =
      (readItems fuel more).map fun (items, tail) => (item :: items, tail) := by
  simp [readItems, hread, skipSpace, isSpace]

/-- The items of an array are read back one after the other up to its bracket. -/
theorem readItems_writeItems {items : List Json} (hitems : items ≠ [])
    (hreads : ∀ item ∈ items, ReadsBack item) {fuel : Nat}
    (hfuel : 2 * (writeItems items).length + 1 < fuel) (rest : List Char) :
    readItems fuel (writeItems items ++ ']' :: rest) = some (ofItems items, rest) := by
  induction items generalizing fuel with
  | nil => exact absurd rfl hitems
  | cons item items ih =>
      obtain ⟨fuel, rfl⟩ := Nat.exists_eq_succ_of_ne_zero (Nat.ne_zero_of_lt hfuel)
      rw [List.forall_mem_cons] at hreads
      obtain ⟨hitem, hreads⟩ := hreads
      cases items with
      | nil =>
          rw [writeItems] at hfuel ⊢
          exact readItems_of_last (hitem fuel (']' :: rest) (by omega) (.inr (.inl rfl)))
      | cons other others =>
          have hwrite : writeItems (item :: other :: others) =
              write item ++ ',' :: writeItems (other :: others) := by
            rw [writeItems]
            simp
          rw [hwrite, List.length_append, List.length_cons] at hfuel
          rw [hwrite, List.append_assoc, List.cons_append,
            readItems_of_more (hitem fuel _ (by omega) (.inl rfl)),
            ih (by simp) hreads (by omega)]
          rfl

theorem startsValue_writeItems {item : Json} (hintegral : item.Integral) (items : List Json)
    (rest : List Char) : StartsValue (writeItems (item :: items) ++ rest) := by
  cases items with
  | nil => exact startsValue_write hintegral rest
  | cons other others =>
      rw [writeItems, List.append_assoc]
      · exact startsValue_write hintegral _
      · simp

theorem read_of_bracket {first : List Char} (hfirst : StartsValue first) (fuel : Nat) :
    read (fuel + 1) ('[' :: first) =
      (readItems fuel first).map fun (items, tail) => (array items, tail) := by
  have hopen : skipSpace ('[' :: first) = '[' :: first := rfl
  have hskip := skipSpace_of_startsValue hfirst
  cases first with
  | nil => exact hfirst.elim
  | cons c first =>
      obtain ⟨-, hclose, -⟩ := hfirst
      simp [read, hopen, hskip, hclose]

theorem readsBack_array {items : List Json} (hintegral : ∀ item ∈ items, item.Integral)
    (hreads : ∀ item ∈ items, ReadsBack item) : ReadsBack (.array items) := by
  apply ReadsBack.of_succ
  intro fuel rest hfuel hrest
  cases items with
  | nil => rfl
  | cons item items =>
      have hfirst := startsValue_writeItems (hintegral item List.mem_cons_self) items
        (']' :: rest)
      rw [write, List.cons_append, List.length_cons, List.length_append] at hfuel
      have hitems : readItems fuel (writeItems (item :: items) ++ ']' :: rest) =
          some (ofItems (item :: items), rest) :=
        readItems_writeItems (by simp) hreads (by omega) rest
      rw [write, List.cons_append, List.cons_append, List.append_assoc, List.singleton_append,
        read_of_bracket hfirst, hitems]
      rfl

/-! ### Objects -/

section Members

variable {fuel : Nat} {text : List Char} {value : Document} (key : String)

theorem readMembers_of_last {tail : List Char}
    (hread : read fuel text = some (value, '\x7d' :: tail)) :
    readMembers (fuel + 1) (writeString key ++ ':' :: text) =
      some ([(some key, value)], tail) := by
  have hkey := readString_writeString key (':' :: text)
  simp [writeString, readMembers, skipSpace, isSpace, hkey, hread]

theorem readMembers_of_more {more : List Char}
    (hread : read fuel text = some (value, ',' :: more)) :
    readMembers (fuel + 1) (writeString key ++ ':' :: text) =
      (readMembers fuel more).map fun (members, tail) => ((some key, value) :: members, tail) := by
  have hkey := readString_writeString key (':' :: text)
  simp [writeString, readMembers, skipSpace, isSpace, hkey, hread]

end Members

/-- The members of an object are read back one after the other up to its brace. -/
theorem readMembers_writeMembers {members : List (String × Json)} (hmembers : members ≠ [])
    (hreads : ∀ member ∈ members, ReadsBack member.2) {fuel : Nat}
    (hfuel : 2 * (writeMembers members).length + 1 < fuel) (rest : List Char) :
    readMembers fuel (writeMembers members ++ '\x7d' :: rest) =
      some (ofMembers members, rest) := by
  induction members generalizing fuel with
  | nil => exact absurd rfl hmembers
  | cons member members ih =>
      obtain ⟨fuel, rfl⟩ := Nat.exists_eq_succ_of_ne_zero (Nat.ne_zero_of_lt hfuel)
      obtain ⟨key, value⟩ := member
      rw [List.forall_mem_cons] at hreads
      have hvalue : ReadsBack value := hreads.1
      cases members with
      | nil =>
          rw [writeMembers, List.length_append, List.length_cons] at hfuel
          rw [writeMembers, List.append_assoc, List.cons_append]
          exact readMembers_of_last key (hvalue fuel _ (by omega) (.inr (.inr rfl)))
      | cons other others =>
          have hwrite : writeMembers ((key, value) :: other :: others) =
              writeString key ++ ':' :: (write value ++ ',' :: writeMembers (other :: others)) := by
            rw [writeMembers] <;> simp
          rw [hwrite, List.length_append, List.length_cons, List.length_append,
            List.length_cons] at hfuel
          rw [hwrite, List.append_assoc, List.cons_append, List.append_assoc, List.cons_append,
            readMembers_of_more key (hvalue fuel _ (by omega) (.inl rfl)),
            ih (by simp) hreads.2 (by omega)]
          rfl

theorem read_of_brace {first : List Char} (hfirst : StartsValue first) (fuel : Nat) :
    read (fuel + 1) ('\x7b' :: first) =
      (readMembers fuel first).map fun (members, tail) => (object members, tail) := by
  have hopen : skipSpace ('\x7b' :: first) = '\x7b' :: first := rfl
  have hskip := skipSpace_of_startsValue hfirst
  cases first with
  | nil => exact hfirst.elim
  | cons c first =>
      obtain ⟨-, -, hclose⟩ := hfirst
      simp [read, hopen, hskip, hclose]

theorem readsBack_object {members : List (String × Json)}
    (hreads : ∀ member ∈ members, ReadsBack member.2) : ReadsBack (.object members) := by
  apply ReadsBack.of_succ
  intro fuel rest hfuel hrest
  cases members with
  | nil => rfl
  | cons member members =>
      have hfirst : StartsValue (writeMembers (member :: members) ++ '\x7d' :: rest) := by
        cases members <;> exact ⟨rfl, by decide, by decide⟩
      rw [write, List.cons_append, List.length_cons, List.length_append] at hfuel
      have hmembers : readMembers fuel (writeMembers (member :: members) ++ '\x7d' :: rest) =
          some (ofMembers (member :: members), rest) :=
        readMembers_writeMembers (by simp) hreads (by omega) rest
      rw [write, List.cons_append, List.cons_append, List.append_assoc, List.singleton_append,
        read_of_brace hfirst, hmembers]
      rfl

/-! ### Texts -/

/-- Every value without floating-point numbers is read back. -/
theorem readsBack {value : Json} (hintegral : value.Integral) : ReadsBack value := by
  induction value using Json.induction with
  | null => exact readsBack_null
  | bool value => exact readsBack_bool value
  | number value =>
      rw [Integral] at hintegral
      obtain ⟨n, rfl⟩ := hintegral
      exact readsBack_number n
  | string value => exact readsBack_string value
  | array items ih =>
      rw [Integral, integralItems_iff] at hintegral
      exact readsBack_array hintegral fun item hitem => ih item hitem (hintegral item hitem)
  | object members ih =>
      rw [Integral, integralMembers_iff] at hintegral
      exact readsBack_object fun member hmember => ih member hmember (hintegral member hmember)

/-- The text of a value is read as its document, whatever the order of its members. -/
theorem ofText?_render {value : Json} (hintegral : value.Integral) :
    ofText? value.render = some (ofJson value) := by
  have hread := readsBack hintegral (2 * (write value).length + 1) [] (by omega) trivial
  rw [List.append_nil] at hread
  simp [ofText?, Json.render, ofChars?, hread, skipSpace]

end Document

end ResourceWatch
