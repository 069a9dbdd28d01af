/-! # Maps in key order

A map is the list of its entries in ascending order of their keys. The list is part
of the type together with its order, so two maps with the same entries are equal,
and listing a map always gives the same order. The operations on plain lists of
entries stand on their own, since the members of a data object are such a list too.
-/

namespace ResourceWatch

variable {κ : Type} {α β : Type} [Ord κ]

namespace Entries

/-- The entries ascend strictly by key, so no key occurs twice. -/
def Ascending (entries : List (κ × α)) : Prop :=
  entries.Pairwise fun a b => compare a.1 b.1 = .lt

/-- The value of the first entry with a key. -/
def get? (key : κ) : List (κ × α) → Option α
  | [] => none
  | (k, v) :: rest => if compare key k = .eq then some v else get? key rest

/-- Puts an entry in its place, instead of an entry with its key if there is one. -/
def insert (key : κ) (value : α) : List (κ × α) → List (κ × α)
  | [] => [(key, value)]
  | (k, v) :: rest =>
    match compare key k with
    | .lt => (key, value) :: (k, v) :: rest
    | .eq => (key, value) :: rest
    | .gt => (k, v) :: insert key value rest

/-- The entries with other keys. -/
def erase (key : κ) (entries : List (κ × α)) : List (κ × α) :=
  entries.filter fun entry => compare key entry.1 ≠ .eq

/-- Inserts a list of entries one after the other, so that the last one with a key
stays. -/
def ofList (entries : List (κ × α)) : List (κ × α) :=
  entries.foldl (fun built entry => insert entry.1 entry.2 built) []

theorem ascending_nil : Ascending ([] : List (κ × α)) := List.Pairwise.nil

theorem mem_insert {key : κ} {value : α} {entries : List (κ × α)} {entry : κ × α}
    (h : entry ∈ insert key value entries) : entry = (key, value) ∨ entry ∈ entries := by
  induction entries with
  | nil => simpa [insert] using h
  | cons head rest ih =>
    rw [insert] at h
    split at h
    · simpa using h
    · rcases List.mem_cons.1 h with h | h
      · exact .inl h
      · exact .inr (List.mem_cons_of_mem _ h)
    · rcases List.mem_cons.1 h with h | h
      · exact .inr (h ▸ List.mem_cons_self)
      · exact (ih h).imp_right (List.mem_cons_of_mem _)

/-- Whatever was put in comes from the list of what is put in. -/
theorem mem_of_mem_ofList {entries : List (κ × α)} {entry : κ × α}
    (h : entry ∈ ofList entries) : entry ∈ entries := by
  unfold ofList at h
  suffices ∀ built : List (κ × α),
      entry ∈ entries.foldl (fun built entry => insert entry.1 entry.2 built) built →
        entry ∈ built ∨ entry ∈ entries from
    (this [] h).resolve_left List.not_mem_nil
  clear h
  induction entries with
  | nil => exact fun _ h => .inl h
  | cons head rest ih =>
    intro built h
    rcases ih _ h with h | h
    · rcases mem_insert h with rfl | h
      · exact .inr List.mem_cons_self
      · exact .inl h
    · exact .inr (List.mem_cons_of_mem _ h)

theorem Ascending.erase {entries : List (κ × α)} (h : Ascending entries) (key : κ) :
    Ascending (erase key entries) :=
  List.Pairwise.filter _ h

theorem Ascending.filterMapValues {entries : List (κ × α)} (h : Ascending entries)
    (f : κ → α → Option β) :
    Ascending (entries.filterMap fun entry => (f entry.1 entry.2).map (entry.1, ·)) := by
  refine List.Pairwise.filterMap _ ?_ h
  intro a b hab a' ha b' hb
  simp only [Option.map_eq_some_iff] at ha hb
  obtain ⟨_, _, rfl⟩ := ha
  obtain ⟨_, _, rfl⟩ := hb
  exact hab

section Lookup

variable [Std.LawfulEqOrd κ]

theorem get?_insert (key other : κ) (value : α) (entries : List (κ × α)) :
    get? other (insert key value entries) =
      if compare other key = .eq then some value else get? other entries := by
  induction entries with
  | nil => simp [insert, get?]
  | cons head rest ih =>
    rw [insert]
    split
    · simp [get?]
    · next heq =>
      have hkeys := Std.LawfulEqOrd.eq_of_compare heq
      by_cases hother : compare other head.1 = .eq <;> simp [get?, hkeys, hother]
    · next hgt =>
      by_cases hother : compare other key = .eq
      · obtain rfl := Std.LawfulEqOrd.eq_of_compare hother
        simpa [get?, hgt] using ih
      · simp [get?, ih, hother]

theorem get?_erase (key other : κ) (entries : List (κ × α)) :
    get? other (erase key entries) =
      if compare other key = .eq then none else get? other entries := by
  induction entries with
  | nil => simp [erase, get?]
  | cons head rest ih =>
    obtain ⟨k, v⟩ := head
    simp only [erase, List.filter_cons, ne_eq, decide_not] at ih ⊢
    by_cases hkey : compare key k = .eq
    · obtain rfl := Std.LawfulEqOrd.eq_of_compare hkey
      by_cases hother : compare other key = .eq <;> simp [get?, ih, hother]
    · by_cases hother : compare other key = .eq
      · obtain rfl := Std.LawfulEqOrd.eq_of_compare hother
        simp [get?, ih, hkey]
      · simp [get?, ih, hkey, hother]

theorem get?_eq_some_iff {entries : List (κ × α)} (h : Ascending entries) {key : κ} {value : α} :
    get? key entries = some value ↔ (key, value) ∈ entries := by
  induction entries with
  | nil => simp [get?]
  | cons head rest ih =>
    obtain ⟨k, v⟩ := head
    obtain ⟨hhead, hrest⟩ := List.pairwise_cons.1 h
    by_cases hkey : compare key k = .eq
    · obtain rfl := Std.LawfulEqOrd.eq_of_compare hkey
      simp only [get?, hkey, if_true, Option.some.injEq, List.mem_cons, Prod.mk.injEq, true_and]
      refine ⟨fun hv => .inl hv.symm, ?_⟩
      rintro (hv | hmem)
      · exact hv.symm
      · simpa using hhead _ hmem
    · simp only [get?, hkey, if_false, ih hrest, List.mem_cons, Prod.mk.injEq]
      refine ⟨.inr, ?_⟩
      rintro (⟨rfl, _⟩ | hmem)
      · simp at hkey
      · exact hmem

/-- Entries that were put in one after the other hold something under exactly their
keys. -/
theorem isSome_get?_ofList (key : κ) (entries : List (κ × α)) :
    (get? key (ofList entries)).isSome = true ↔ key ∈ entries.map Prod.fst := by
  suffices ∀ built : List (κ × α),
      (get? key (entries.foldl (fun built entry => insert entry.1 entry.2 built) built)).isSome =
        true ↔ (get? key built).isSome = true ∨ key ∈ entries.map Prod.fst by
    simpa [ofList, get?] using this []
  induction entries with
  | nil => simp
  | cons entry rest ih =>
    intro built
    have hsame : compare key entry.1 = .eq ↔ key = entry.1 := Std.LawfulEqCmp.compare_eq_iff_eq
    rw [List.foldl_cons, ih, get?_insert, List.map_cons, List.mem_cons, ← hsame]
    split
    · next hkey => simp [hkey]
    · next hkey => simp [hkey]

end Lookup

variable [Std.TransOrd κ]

theorem Ascending.insert {entries : List (κ × α)} (h : Ascending entries) (key : κ) (value : α) :
    Ascending (insert key value entries) := by
  induction entries with
  | nil => simp [Entries.insert, Ascending]
  | cons head rest ih =>
    obtain ⟨hhead, hrest⟩ := List.pairwise_cons.1 h
    rw [Entries.insert]
    split
    · next hlt =>
      refine List.pairwise_cons.2 ⟨fun entry hentry => ?_, h⟩
      rcases List.mem_cons.1 hentry with rfl | hentry
      · exact hlt
      · exact Std.TransCmp.lt_trans hlt (hhead entry hentry)
    · next heq =>
      refine List.pairwise_cons.2 ⟨fun entry hentry => ?_, hrest⟩
      exact Std.TransCmp.lt_of_eq_of_lt heq (hhead entry hentry)
    · next hgt =>
      refine List.pairwise_cons.2 ⟨fun entry hentry => ?_, ih hrest⟩
      rcases mem_insert hentry with rfl | hentry
      · exact Std.OrientedCmp.lt_of_gt hgt
      · exact hhead entry hentry

theorem ascending_ofList (entries : List (κ × α)) : Ascending (ofList entries) := by
  unfold ofList
  suffices ∀ built : List (κ × α), Ascending built →
      Ascending (entries.foldl (fun built entry => insert entry.1 entry.2 built) built) from
    this [] ascending_nil
  induction entries with
  | nil => exact fun _ h => h
  | cons entry rest ih => exact fun built h => ih _ (h.insert entry.1 entry.2)

/-- An entry that belongs behind all others is put there. -/
theorem insert_of_forall_lt {key : κ} {value : α} {entries : List (κ × α)}
    (h : ∀ entry ∈ entries, compare entry.1 key = .lt) :
    insert key value entries = entries ++ [(key, value)] := by
  induction entries with
  | nil => rfl
  | cons head rest ih =>
    have hgt : compare key head.1 = .gt := Std.OrientedCmp.gt_of_lt (h head List.mem_cons_self)
    have hrest := ih fun entry hentry => h entry (List.mem_cons_of_mem head hentry)
    simp [insert, hgt, hrest]

theorem Ascending.ofList_eq {entries : List (κ × α)} (h : Ascending entries) :
    ofList entries = entries := by
  unfold ofList
  suffices ∀ built : List (κ × α), Ascending (built ++ entries) →
      entries.foldl (fun built entry => Entries.insert entry.1 entry.2 built) built =
        built ++ entries from
    this [] h
  clear h
  induction entries with
  | nil => simp
  | cons entry rest ih =>
    intro built hbuilt
    have hbefore : ∀ former ∈ built, compare former.1 entry.1 = .lt := fun former hformer =>
      (List.pairwise_append.1 hbuilt).2.2 former hformer entry List.mem_cons_self
    have happend : built ++ [(entry.1, entry.2)] ++ rest = built ++ entry :: rest := by simp
    rw [List.foldl_cons, insert_of_forall_lt hbefore, ih _ (happend ▸ hbuilt), happend]

variable [Std.LawfulEqOrd κ]

/-- Entries in order are determined by what they hold under each key. -/
theorem Ascending.ext {entries others : List (κ × α)} (h : Ascending entries)
    (hothers : Ascending others) (hget : ∀ key, get? key entries = get? key others) :
    entries = others := by
  have hmem : ∀ entry, entry ∈ entries ↔ entry ∈ others := fun ⟨key, value⟩ => by
    rw [← get?_eq_some_iff h, ← get?_eq_some_iff hothers, hget]
  induction entries generalizing others with
  | nil =>
    cases others with
    | nil => rfl
    | cons head rest => exact absurd ((hmem head).2 List.mem_cons_self) (by simp)
  | cons head rest ih =>
    cases others with
    | nil => exact absurd ((hmem head).1 List.mem_cons_self) (by simp)
    | cons head' rest' =>
      obtain ⟨hhead, hrest⟩ := List.pairwise_cons.1 h
      obtain ⟨hhead', hrest'⟩ := List.pairwise_cons.1 hothers
      -- Were the heads different, each would stand behind the other.
      have hheads : head = head' := by
        rcases List.mem_cons.1 ((hmem head).1 List.mem_cons_self) with heq | hin
        · exact heq
        rcases List.mem_cons.1 ((hmem head').2 List.mem_cons_self) with heq | hin'
        · exact heq.symm
        have := Std.TransCmp.lt_trans (hhead _ hin') (hhead' _ hin)
        simp at this
      subst hheads
      have hrests : ∀ entry, entry ∈ rest ↔ entry ∈ rest' := fun entry => by
        have := hmem entry
        constructor
        · intro hin
          rcases List.mem_cons.1 (this.1 (List.mem_cons_of_mem _ hin)) with rfl | hin'
          · simpa using hhead _ hin
          · exact hin'
        · intro hin
          rcases List.mem_cons.1 (this.2 (List.mem_cons_of_mem _ hin)) with rfl | hin'
          · simpa using hhead' _ hin
          · exact hin'
      have hgets : ∀ key, get? key rest = get? key rest' := fun key => by
        apply Option.ext
        intro value
        rw [get?_eq_some_iff hrest, get?_eq_some_iff hrest', hrests]
      rw [ih hrest hrest' hgets hrests]

end Entries

/-- A map from keys to values, held as its entries in ascending order. -/
structure OrderedMap (κ α : Type) [Ord κ] where
  entries : List (κ × α)
  ascending : Entries.Ascending entries

namespace OrderedMap

def empty : OrderedMap κ α := ⟨[], Entries.ascending_nil⟩

instance : EmptyCollection (OrderedMap κ α) := ⟨empty⟩

instance : Inhabited (OrderedMap κ α) := ⟨empty⟩

instance [DecidableEq κ] [DecidableEq α] : DecidableEq (OrderedMap κ α) := fun a b =>
  decidable_of_iff (a.entries = b.entries) (by cases a; cases b; simp)

def get? (map : OrderedMap κ α) (key : κ) : Option α := Entries.get? key map.entries

def contains (map : OrderedMap κ α) (key : κ) : Bool := (map.get? key).isSome

/-- The map without the entry of a key. -/
def erase (map : OrderedMap κ α) (key : κ) : OrderedMap κ α :=
  ⟨Entries.erase key map.entries, map.ascending.erase key⟩

def toList (map : OrderedMap κ α) : List (κ × α) := map.entries

def keys (map : OrderedMap κ α) : List κ := map.entries.map Prod.fst

def size (map : OrderedMap κ α) : Nat := map.entries.length

def isEmpty (map : OrderedMap κ α) : Bool := map.entries.isEmpty

/-- The map of the values that a function gives, without the keys for which it
gives none. -/
def filterMap (f : κ → α → Option β) (map : OrderedMap κ α) : OrderedMap κ β :=
  ⟨map.entries.filterMap fun entry => (f entry.1 entry.2).map (entry.1, ·),
    map.ascending.filterMapValues f⟩

/-- The map of the entries that pass a test. -/
def filter (keep : κ → α → Bool) (map : OrderedMap κ α) : OrderedMap κ α :=
  map.filterMap fun key value => if keep key value then some value else none

@[simp] theorem get?_empty (key : κ) : (empty : OrderedMap κ α).get? key = none := rfl

theorem get?_erase [Std.LawfulEqOrd κ] (map : OrderedMap κ α) (key other : κ) :
    (map.erase key).get? other = if compare other key = .eq then none else map.get? other :=
  Entries.get?_erase key other map.entries

section Listing

variable [Std.LawfulEqOrd κ]

theorem mem_toList_iff (map : OrderedMap κ α) (key : κ) (value : α) :
    (key, value) ∈ map.toList ↔ map.get? key = some value :=
  (Entries.get?_eq_some_iff map.ascending).symm

theorem mem_keys_iff (map : OrderedMap κ α) (key : κ) :
    key ∈ map.keys ↔ (map.get? key).isSome = true := by
  rw [Option.isSome_iff_exists, keys, List.mem_map]
  constructor
  · rintro ⟨⟨key, value⟩, hmem, rfl⟩
    exact ⟨value, (map.mem_toList_iff key value).1 hmem⟩
  · rintro ⟨value, hget⟩
    exact ⟨(key, value), (map.mem_toList_iff key value).2 hget, rfl⟩

theorem get?_filterMap (f : κ → α → Option β) (map : OrderedMap κ α) (key : κ) :
    (map.filterMap f).get? key = (map.get? key).bind (f key) := by
  apply Option.ext
  intro value
  rw [← mem_toList_iff, Option.bind_eq_some_iff]
  simp only [toList, filterMap, List.mem_filterMap, Option.map_eq_some_iff, Prod.mk.injEq]
  constructor
  · rintro ⟨⟨key, former⟩, hmem, value, hvalue, rfl, rfl⟩
    exact ⟨former, (map.mem_toList_iff key former).1 hmem, hvalue⟩
  · rintro ⟨former, hget, hvalue⟩
    exact ⟨(key, former), (map.mem_toList_iff key former).2 hget, value, hvalue, rfl, rfl⟩

theorem get?_filter (keep : κ → α → Bool) (map : OrderedMap κ α) (key : κ) :
    (map.filter keep).get? key = (map.get? key).filter (keep key) := by
  rw [filter, get?_filterMap]
  cases map.get? key with
  | none => rfl
  | some value => rw [Option.filter_some]; rfl

end Listing

theorem keys_ascending (map : OrderedMap κ α) :
    map.keys.Pairwise fun a b => compare a b = .lt :=
  List.pairwise_map.2 map.ascending

variable [Std.TransOrd κ]

/-- The map with a value under a key, in place of a former value. -/
def insert (map : OrderedMap κ α) (key : κ) (value : α) : OrderedMap κ α :=
  ⟨Entries.insert key value map.entries, map.ascending.insert key value⟩

/-- The map of a list of entries, of which the last with a key stays. -/
def ofList (entries : List (κ × α)) : OrderedMap κ α :=
  ⟨Entries.ofList entries, Entries.ascending_ofList entries⟩

/-- The map with the value under a key changed, starting from a default where there
is none. -/
def update (map : OrderedMap κ α) (key : κ) (default : α) (edit : α → α) : OrderedMap κ α :=
  map.insert key (edit ((map.get? key).getD default))

variable [Std.LawfulEqOrd κ]

theorem get?_insert (map : OrderedMap κ α) (key other : κ) (value : α) :
    (map.insert key value).get? other =
      if compare other key = .eq then some value else map.get? other :=
  Entries.get?_insert key other value map.entries

theorem get?_update [DecidableEq κ] (map : OrderedMap κ α) (key other : κ) (default : α)
    (edit : α → α) :
    (map.update key default edit).get? other =
      if other = key then some (edit ((map.get? key).getD default)) else map.get? other := by
  simp only [update, get?_insert, Std.LawfulEqCmp.compare_eq_iff_eq]

theorem mem_keys_ofList (key : κ) (entries : List (κ × α)) :
    key ∈ (ofList entries).keys ↔ key ∈ entries.map Prod.fst := by
  rw [mem_keys_iff]
  exact Entries.isSome_get?_ofList key entries

/-- Two maps that hold the same under every key are equal. -/
@[ext] theorem ext_get? {a b : OrderedMap κ α} (h : ∀ key, a.get? key = b.get? key) : a = b := by
  obtain ⟨entries, ha⟩ := a
  obtain ⟨others, hb⟩ := b
  have : entries = others := ha.ext hb h
  subst this
  rfl

/-- A value that is there already may be put there again. -/
theorem insert_of_get?_eq_some {map : OrderedMap κ α} {key : κ} {value : α}
    (hget : map.get? key = some value) : map.insert key value = map := by
  ext1 other
  rw [get?_insert]
  split
  next hother => rw [Std.LawfulEqOrd.eq_of_compare hother, hget]
  next => rfl

/-- Two changes of the value under one key are one change. -/
theorem update_update [DecidableEq κ] (map : OrderedMap κ α) (key : κ) (default : α)
    (edit later : α → α) :
    (map.update key default edit).update key default later =
      map.update key default fun value => later (edit value) := by
  ext1 other
  simp only [get?_update]
  by_cases hother : other = key
  · simp only [if_pos hother, if_true, Option.getD_some]
  · simp only [if_neg hother]

end OrderedMap

end ResourceWatch
