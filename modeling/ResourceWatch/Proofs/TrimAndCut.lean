import Mathlib.Data.List.DropRight
import Mathlib.Data.List.Infix
import ResourceWatch.Text.Blank
import ResourceWatch.Text.Split

/-! # Trimming and cutting

Trimming leaves a piece of a text that neither begins nor ends with a blank, and nothing is
taken from a text that is like this already. A cut loses only the pattern, and fails only
where the pattern stands nowhere.
-/

namespace ResourceWatch.Text

/-- Whether a text neither begins nor ends with a blank. -/
structure IsTrimmed (text : List Char) : Prop where
  head : ∀ c ∈ text.head?, isBlank c = false
  last : ∀ c ∈ text.getLast?, isBlank c = false

theorem trimEnd_eq_rdropWhile (text : List Char) : trimEnd text = text.rdropWhile isBlank := rfl

theorem isPrefix_trimEnd (text : List Char) : trimEnd text <+: text :=
  List.rdropWhile_prefix isBlank text

theorem isInfix_trim (text : List Char) : trim text <:+: text :=
  (isPrefix_trimEnd _).isInfix.trans (List.dropWhile_suffix isBlank).isInfix

theorem isTrimmed_trim (text : List Char) : IsTrimmed (trim text) where
  head c hc := by
    obtain ⟨rest, hrest⟩ := List.head?_eq_some_iff.mp hc
    obtain ⟨dropped, hdropped⟩ := isPrefix_trimEnd (trimStart text)
    have hstart : (text.dropWhile isBlank).head? = some c := by
      rw [← trimStart, ← hdropped, ← trim, hrest]
      rfl
    have hfirst := List.head?_dropWhile_not isBlank text
    rwa [hstart] at hfirst
  last c hc := by
    obtain ⟨hne, rfl⟩ := List.mem_getLast?_eq_getLast hc
    exact Bool.eq_false_iff.mpr (List.rdropWhile_last_not isBlank _ hne)

theorem trim_of_isTrimmed {text : List Char} (htext : IsTrimmed text) : trim text = text := by
  have hstart : trimStart text = text := by
    cases text with
    | nil => rfl
    | cons c rest => exact List.dropWhile_cons_of_neg (by simp [htext.head c rfl])
  rw [trim, hstart, trimEnd_eq_rdropWhile, List.rdropWhile_eq_self_iff]
  intro hne
  simp [htext.last _ (List.getLast?_eq_some_getLast hne)]

theorem IsTrimmed.append {front back : List Char} (hfront : IsTrimmed front) (hne : front ≠ [])
    (hback : ∀ c ∈ back.getLast?, isBlank c = false) : IsTrimmed (front ++ back) where
  head c hc := by
    rw [List.head?_append_of_ne_nil _ hne] at hc
    exact hfront.head c hc
  last c hc := by
    rw [List.getLast?_append] at hc
    rcases Option.or_eq_some_iff.mp hc with hlast | ⟨-, hlast⟩
    · exact hback c hlast
    · exact hfront.last c hlast

theorem IsTrimmed.last_cons {text : List Char} (htext : IsTrimmed text) {first : Char}
    (hfirst : isBlank first = false) : ∀ c ∈ (first :: text).getLast?, isBlank c = false := by
  intro c hc
  rw [List.getLast?_cons] at hc
  obtain rfl := Option.some.inj hc
  cases hlast : text.getLast? with
  | none => exact hfirst
  | some last => exact htext.last last hlast

/-- Whether a text has no characters but blanks. -/
def IsGap (text : List Char) : Prop := ∀ c ∈ text, isBlank c = true

theorem trim_append_gap (text : List Char) {gap : List Char} (hgap : IsGap gap) :
    trim (text ++ gap) = trim text := by
  have hreverse : ∀ c ∈ gap.reverse, isBlank c = true :=
    fun c hc => hgap c (List.mem_reverse.mp hc)
  rw [trim, trim, trimStart, trimStart, List.dropWhile_append]
  split
  next hempty =>
    rw [List.isEmpty_iff.mp hempty, List.dropWhile_eq_nil_iff.mpr hgap]
  next =>
    rw [trimEnd, List.reverse_append, List.dropWhile_append_of_pos hreverse, trimEnd]

/-- Blanks around a text do not count. -/
theorem trim_of_gaps {front back : List Char} (hfront : IsGap front) (hback : IsGap back)
    (text : List Char) : trim (front ++ text ++ back) = trim text := by
  rw [trim_append_gap _ hback, trim, trimStart, List.dropWhile_append_of_pos hfront]
  rfl

theorem trim_of_isGap {gap : List Char} (hgap : IsGap gap) : trim gap = [] :=
  trim_append_gap [] hgap

/-! ## Cuts -/

theorem afterStart_eq_some_iff {pattern text rest : List Char} :
    afterStart pattern text = some rest ↔ pattern ++ rest = text :=
  List.isPrefixOf?_eq_some_iff_append_eq

theorem afterStart_eq_none_iff {pattern text : List Char} :
    afterStart pattern text = none ↔ ¬pattern <+: text := by
  rw [Option.eq_none_iff_forall_ne_some]
  constructor
  · rintro hnone ⟨rest, hrest⟩
    exact hnone rest (afterStart_eq_some_iff.mpr hrest)
  · intro hstarts rest hrest
    exact hstarts ⟨rest, afterStart_eq_some_iff.mp hrest⟩

theorem append_of_cutAt {pattern text head tail : List Char}
    (hcut : cutAt pattern text = some (head, tail)) : head ++ pattern ++ tail = text := by
  induction text generalizing head with
  | nil =>
      rw [cutAt] at hcut
      split at hcut
      next hpattern =>
        obtain ⟨rfl, rfl⟩ := Prod.mk.inj (Option.some.inj hcut)
        simpa using hpattern
      next => cases hcut
  | cons c rest ih =>
      rw [cutAt] at hcut
      split at hcut
      next after hafter =>
        obtain ⟨rfl, rfl⟩ := Prod.mk.inj (Option.some.inj hcut)
        exact afterStart_eq_some_iff.mp hafter
      next =>
        obtain ⟨⟨front, back⟩, hrest, heq⟩ := Option.map_eq_some_iff.mp hcut
        obtain ⟨rfl, rfl⟩ := Prod.mk.inj heq
        exact congrArg (c :: ·) (ih hrest)

theorem cutAt_eq_none_iff {pattern text : List Char} :
    cutAt pattern text = none ↔ ¬pattern <:+: text := by
  induction text with
  | nil =>
      rw [cutAt, List.infix_nil]
      cases pattern <;> simp
  | cons c rest ih =>
      rw [cutAt, List.infix_cons_iff, not_or, ← afterStart_eq_none_iff, ← ih]
      cases afterStart pattern (c :: rest) with
      | some tail => simp
      | none => simp

/-- A pattern is found behind a text that does not have its first character. -/
theorem cutAt_append {c : Char} {head : List Char} (hhead : c ∉ head) (pattern tail : List Char) :
    cutAt (c :: pattern) (head ++ (c :: pattern ++ tail)) = some (head, tail) := by
  induction head with
  | nil =>
      have hafter : afterStart (c :: pattern) (c :: pattern ++ tail) = some tail :=
        afterStart_eq_some_iff.mpr rfl
      rw [List.nil_append, List.cons_append, cutAt, ← List.cons_append, hafter]
  | cons first rest ih =>
      obtain ⟨hfirst, hrest⟩ := not_or.mp (mt List.mem_cons.mpr hhead)
      have hafter : afterStart (c :: pattern) (first :: (rest ++ (c :: pattern ++ tail))) = none :=
        afterStart_eq_none_iff.mpr fun hstarts => hfirst (List.cons_prefix_cons.mp hstarts).1
      rw [List.cons_append, cutAt, hafter, ih hrest]
      rfl

theorem not_mem_of_mem_splitOn {separator : Char} {part text : List Char}
    (hpart : part ∈ splitOn separator text) : separator ∉ part := by
  induction text generalizing part with
  | nil =>
      rw [splitOn, List.mem_singleton] at hpart
      subst hpart
      exact List.not_mem_nil
  | cons c rest ih =>
      rw [splitOn] at hpart
      split at hpart
      next hc =>
        rcases List.mem_cons.mp hpart with rfl | hrest
        · exact List.not_mem_nil
        · exact ih hrest
      next hc =>
        obtain ⟨next, more, hsplit⟩ := List.exists_cons_of_ne_nil (splitOn_ne_nil separator rest)
        rw [hsplit] at hpart ih
        rcases List.mem_cons.mp hpart with rfl | hmore
        · exact List.not_mem_cons_of_ne_of_not_mem (Ne.symm hc) (ih List.mem_cons_self)
        · exact ih (List.mem_cons_of_mem _ hmore)

/-- A piece of a joined text stands in the second text if the first one does not have its
first character. -/
theorem infix_of_infix_append {c : Char} {front : List Char} (hfront : c ∉ front)
    {pattern back : List Char} (hpattern : c :: pattern <:+: front ++ back) :
    c :: pattern <:+: back := by
  induction front with
  | nil => exact hpattern
  | cons first rest ih =>
      obtain ⟨hfirst, hrest⟩ := not_or.mp (mt List.mem_cons.mpr hfront)
      rcases List.infix_cons_iff.mp hpattern with hstarts | hlater
      · exact absurd (List.cons_prefix_cons.mp hstarts).1 hfirst
      · exact ih hrest hlater

end ResourceWatch.Text
