import Mathlib.Data.List.Forall2
import ResourceWatch.Label.Selector
import ResourceWatch.Proofs.TrimAndCut

/-! # The canonical text of a selector

A selector is sent to the server as its canonical text and filters local views by itself, so
the text should read back as the selector. It does unless an equality has a value that begins
with an equality sign or has two of them in a row. The single sign that is written for the
equality then stands at, or before, a place where two signs are read, and the text is another
selector or none at all.
-/

namespace ResourceWatch

open Text

theorem Selector.isKey_iff {key : String} :
    isKey key = true ↔
      key.toList ≠ [] ∧ ∀ c ∈ key.toList, isBlank c = false ∧ c ≠ '=' ∧ c ≠ '!' := by
  simp [isKey, and_assoc]

namespace Requirement

/-- The value that a requirement compares with. -/
def value? : Requirement → Option String
  | equals _ value | differs _ value => some value
  | present _ | absent _ => none

/-- What is known of a requirement that was read from a term. The value of an equality has no
inequality sign, which would have been found first. -/
structure IsRead (requirement : Requirement) : Prop where
  isKey : Selector.isKey requirement.key = true
  trimmed : ∀ value ∈ requirement.value?, IsTrimmed value.toList
  no_comma : ',' ∉ requirement.write
  no_inequality : ∀ key value, requirement = equals key value →
    ¬['!', '='] <:+: value.toList

/-- Whether a requirement can be told from its written form: no equality has two signs in a
row, counting the one in front of the value. -/
def IsPlain : Requirement → Prop
  | equals _ value => ¬['=', '='] <:+: '=' :: value.toList
  | differs _ _ | present _ | absent _ => True

instance : DecidablePred IsPlain
  | equals _ _ => inferInstanceAs (Decidable (¬_))
  | differs _ _ | present _ | absent _ => .isTrue trivial

@[simp] theorem toList_part (text : List Char) : (part text).toList = trim text :=
  String.toList_ofList

theorem part_toList {text : String} (htext : IsTrimmed text.toList) : part text.toList = text := by
  rw [part, trim_of_isTrimmed htext, String.ofList_toList]

theorem isTrimmed_of_isKey {key : String} (hkey : Selector.isKey key = true) :
    IsTrimmed key.toList where
  head c hc := ((Selector.isKey_iff.mp hkey).2 c (List.mem_of_mem_head? hc)).1
  last c hc := ((Selector.isKey_iff.mp hkey).2 c (List.mem_of_mem_getLast? hc)).1

/-! ## Reading -/

theorem ofTerm_of_inequality {term key value : List Char}
    (hcut : cutAt ['!', '='] term = some (key, value)) :
    ofTerm term = differs (part key) (part value) := by
  unfold ofTerm
  rw [hcut]

theorem ofTerm_of_equality {term key value : List Char} (hnone : cutAt ['!', '='] term = none)
    (hcut : (cutAt ['=', '='] term).or (cutAt ['='] term) = some (key, value)) :
    ofTerm term = equals (part key) (part value) := by
  unfold ofTerm
  rw [hnone]
  simp only [hcut]

/-- Every cut of a term needs an equality sign. -/
theorem cutAt_of_no_sign {term : List Char} (hterm : '=' ∉ term) (pattern : List Char)
    (hpattern : '=' ∈ pattern) : cutAt pattern term = none :=
  cutAt_eq_none_iff.mpr fun hpiece => hterm (hpiece.subset hpattern)

theorem ofTerm_of_no_sign {term : List Char} (hterm : '=' ∉ term) :
    (∃ key, term = '!' :: key ∧ ofTerm term = absent (part key)) ∨
      (∀ key, term ≠ '!' :: key) ∧ ofTerm term = present (String.ofList term) := by
  unfold ofTerm
  simp only [cutAt_of_no_sign hterm ['!', '='] (by simp),
    cutAt_of_no_sign hterm ['=', '='] (by simp), cutAt_of_no_sign hterm ['='] (by simp),
    Option.or_none]
  split
  next key => exact .inl ⟨key, rfl, rfl⟩
  next hfirst => exact .inr ⟨hfirst, rfl⟩

/-- An equality is found at one of its two signs. -/
theorem exists_sign_of_cutAt {term key value : List Char}
    (hcut : (cutAt ['=', '='] term).or (cutAt ['='] term) = some (key, value)) :
    ∃ sign, key ++ sign ++ value = term := by
  rcases Option.or_eq_some_iff.mp hcut with htwo | ⟨-, hone⟩
  · exact ⟨_, append_of_cutAt htwo⟩
  · exact ⟨_, append_of_cutAt hone⟩

theorem no_sign_of_cutAt {term : List Char}
    (hcut : (cutAt ['=', '='] term).or (cutAt ['='] term) = none) : '=' ∉ term := by
  intro hmem
  obtain ⟨front, back, rfl⟩ := List.append_of_mem hmem
  exact cutAt_eq_none_iff.mp (Option.or_eq_none_iff.mp hcut).2 ⟨front, back, by simp⟩

theorem isRead_ofTerm {term : List Char} (hterm : ',' ∉ term)
    (hkey : Selector.isKey (ofTerm term).key = true) : (ofTerm term).IsRead := by
  have hpart : ∀ {piece : List Char}, piece <:+: term → ',' ∉ trim piece := by
    intro piece hpiece hmem
    exact hterm (hpiece.subset ((isInfix_trim _).subset hmem))
  -- The cases are the order in which the operators are looked for.
  cases hdiffers : cutAt ['!', '='] term with
  | some cut =>
      obtain ⟨key, value⟩ := cut
      rw [ofTerm_of_inequality hdiffers] at hkey ⊢
      obtain rfl := append_of_cutAt hdiffers
      have hleft : ',' ∉ trim key := hpart ⟨[], ['!', '='] ++ value, by simp⟩
      have hright : ',' ∉ trim value := hpart ⟨key ++ ['!', '='], [], by simp⟩
      refine ⟨hkey, ?_, ?_, by simp⟩
      · simpa [value?] using isTrimmed_trim value
      · simp [write, hleft, hright]
  | none =>
      cases hequals : (cutAt ['=', '='] term).or (cutAt ['='] term) with
      | some cut =>
          obtain ⟨key, value⟩ := cut
          rw [ofTerm_of_equality hdiffers hequals] at hkey ⊢
          obtain ⟨sign, rfl⟩ := exists_sign_of_cutAt hequals
          have hleft : ',' ∉ trim key := hpart ⟨[], sign ++ value, by simp⟩
          have hright : ',' ∉ trim value := hpart ⟨key ++ sign, [], by simp⟩
          refine ⟨hkey, ?_, ?_, ?_⟩
          · simpa [value?] using isTrimmed_trim value
          · simp [write, hleft, hright]
          · intro _ _ heq hsign
            obtain ⟨-, rfl⟩ := Requirement.equals.inj heq
            rw [toList_part] at hsign
            have hvalue : value <:+: key ++ sign ++ value := ⟨key ++ sign, [], by simp⟩
            exact cutAt_eq_none_iff.mp hdiffers ((hsign.trans (isInfix_trim value)).trans hvalue)
      | none =>
          rcases ofTerm_of_no_sign (no_sign_of_cutAt hequals) with
            ⟨key, rfl, habsent⟩ | ⟨-, hpresent⟩
          · rw [habsent] at hkey ⊢
            have hname : ',' ∉ trim key := hpart ⟨['!'], [], by simp⟩
            exact ⟨hkey, by simp [value?], by simp [write, hname], by simp⟩
          · rw [hpresent] at hkey ⊢
            exact ⟨hkey, by simp [value?], by simpa [write] using hterm, by simp⟩

/-! ## Writing -/

variable {requirement : Requirement}

theorem IsRead.write_ne_nil (hread : requirement.IsRead) : requirement.write ≠ [] := by
  have hkey := (Selector.isKey_iff.mp hread.isKey).1
  cases requirement with
  | equals key value => simp [write]
  | differs key value => simp [write]
  | present key => exact hkey
  | absent key => simp [write]

theorem IsRead.isTrimmed_write (hread : requirement.IsRead) : IsTrimmed requirement.write := by
  have hne := (Selector.isKey_iff.mp hread.isKey).1
  have hkey := isTrimmed_of_isKey hread.isKey
  cases requirement with
  | equals key value =>
      exact hkey.append hne ((hread.trimmed value rfl).last_cons (by decide))
  | differs key value =>
      apply hkey.append hne
      rw [List.getLast?_cons_cons]
      exact (hread.trimmed value rfl).last_cons (by decide)
  | present key => exact hkey
  | absent key =>
      refine ⟨?_, hkey.last_cons (by decide)⟩
      rintro c ⟨⟩
      decide

/-- Between two signs a term has less text than an equality was written with. -/
theorem ofTerm_write_ne {key value : String} (hsigns : ['=', '='] <:+: '=' :: value.toList) :
    ofTerm (equals key value).write ≠ equals key value := by
  cases hdiffers : cutAt ['!', '='] (equals key value).write with
  | some cut =>
      rw [ofTerm_of_inequality hdiffers]
      simp
  | none =>
      have hpiece : ['=', '='] <:+: (equals key value).write :=
        hsigns.trans (List.suffix_append key.toList _).isInfix
      obtain ⟨⟨front, back⟩, hcut⟩ := Option.ne_none_iff_exists'.mp
        (mt cutAt_eq_none_iff.mp (not_not_intro hpiece))
      have hor : (cutAt ['=', '='] (equals key value).write).or
          (cutAt ['='] (equals key value).write) = some (front, back) := by
        rw [hcut, Option.some_or]
      rw [ofTerm_of_equality hdiffers hor]
      intro heq
      obtain ⟨rfl, rfl⟩ := Requirement.equals.inj heq
      have hlength := congrArg List.length (append_of_cutAt hcut)
      have hfront := (isInfix_trim front).length_le
      have hback := (isInfix_trim back).length_le
      simp only [write, toList_part, List.length_append, List.length_cons,
        List.length_nil] at hlength
      omega

/-- A requirement that was read is read again from its written form exactly if it is plain. -/
theorem IsRead.ofTerm_write_iff (hread : requirement.IsRead) :
    ofTerm requirement.write = requirement ↔ requirement.IsPlain := by
  obtain ⟨hne, hchars⟩ := Selector.isKey_iff.mp hread.isKey
  have hequal : '=' ∉ requirement.key.toList := fun hmem => (hchars _ hmem).2.1 rfl
  have hbang : '!' ∉ requirement.key.toList := fun hmem => (hchars _ hmem).2.2 rfl
  have hkey := part_toList (isTrimmed_of_isKey hread.isKey)
  cases requirement with
  | equals key value =>
      refine ⟨fun hterm hsigns => ofTerm_write_ne hsigns hterm, fun hplain => ?_⟩
      have hdiffers : cutAt ['!', '='] (equals key value).write = none := by
        rw [cutAt_eq_none_iff]
        intro hpiece
        rcases List.infix_cons_iff.mp (infix_of_infix_append hbang hpiece) with hstarts | hlater
        · simp at hstarts
        · exact hread.no_inequality key value rfl hlater
      have htwo : cutAt ['=', '='] (equals key value).write = none :=
        cutAt_eq_none_iff.mpr fun hpiece => hplain (infix_of_infix_append hequal hpiece)
      have hone : cutAt ['='] (equals key value).write = some (key.toList, value.toList) :=
        cutAt_append hequal [] value.toList
      have hor : (cutAt ['=', '='] (equals key value).write).or
          (cutAt ['='] (equals key value).write) = some (key.toList, value.toList) := by
        rw [htwo, Option.none_or, hone]
      rw [ofTerm_of_equality hdiffers hor, part_toList (hread.trimmed value rfl)]
      exact congrArg (equals · value) hkey
  | differs key value =>
      have hcut : cutAt ['!', '='] (differs key value).write = some (key.toList, value.toList) :=
        cutAt_append hbang ['='] value.toList
      rw [ofTerm_of_inequality hcut, part_toList (hread.trimmed value rfl)]
      exact iff_of_true (congrArg (differs · value) hkey) trivial
  | present key =>
      rcases ofTerm_of_no_sign hequal with ⟨rest, hstart, -⟩ | ⟨-, hpresent⟩
      · exact absurd (hstart ▸ List.mem_cons_self) hbang
      · rw [String.ofList_toList] at hpresent
        exact iff_of_true hpresent trivial
  | absent key =>
      have hterm : '=' ∉ (absent key).write :=
        List.not_mem_cons_of_ne_of_not_mem (by decide) hequal
      rcases ofTerm_of_no_sign hterm with ⟨rest, hstart, habsent⟩ | ⟨hfirst, -⟩
      · obtain ⟨-, rfl⟩ := List.cons.inj hstart
        rw [habsent]
        exact iff_of_true (congrArg absent hkey) trivial
      · exact absurd rfl (hfirst key.toList)

end Requirement

namespace Selector

theorem readTerm_eq_ok_iff {term : List Char} {requirement : Requirement} :
    readTerm term = .ok requirement ↔
      Requirement.ofTerm term = requirement ∧ isKey requirement.key = true := by
  simp only [readTerm]
  split
  next hkey =>
    rw [Except.ok.injEq]
    constructor
    · rintro rfl
      exact ⟨rfl, hkey⟩
    · exact And.left
  next hkey =>
    refine ⟨fun herror => (nomatch herror), ?_⟩
    rintro ⟨rfl, hread⟩
    exact absurd hread hkey

theorem readTerms_eq_ok_iff {terms : List (List Char)} {requirements : List Requirement} :
    readTerms terms = .ok requirements ↔
      List.Forall₂ (fun term requirement => readTerm term = .ok requirement) terms
        requirements := by
  induction terms generalizing requirements with
  | nil => simp [readTerms, eq_comm]
  | cons term rest ih =>
      rw [readTerms]
      cases hterm : readTerm term with
      | error fault =>
          refine ⟨fun herror => (nomatch herror), ?_⟩
          rintro (_ | ⟨hread, -⟩)
          rw [hterm] at hread
          cases hread
      | ok requirement =>
          cases hrest : readTerms rest with
          | error fault =>
              refine ⟨fun herror => (nomatch herror), ?_⟩
              rintro (_ | ⟨-, hmore⟩)
              rw [ih.mpr hmore] at hrest
              cases hrest
          | ok more =>
              rw [Except.ok.injEq]
              constructor
              · rintro rfl
                exact .cons hterm (ih.mp hrest)
              · rintro (_ | ⟨hread, hmore⟩)
                obtain rfl := Except.ok.inj (hterm.symm.trans hread)
                obtain rfl := Except.ok.inj (hrest.symm.trans (ih.mpr hmore))
                rfl

/-- The terms of a canonical text are the written requirements. -/
theorem terms_joinWith {parts : List (List Char)}
    (hparts : ∀ part ∈ parts, part ≠ [] ∧ IsTrimmed part ∧ ',' ∉ part) :
    terms (joinWith ',' parts) = parts := by
  by_cases hnil : parts = []
  · subst hnil
    rfl
  rw [terms, splitOn_joinWith hnil fun part hpart => (hparts part hpart).2.2]
  have htrim : parts.map trim = parts := by
    conv_rhs => rw [← List.map_id parts]
    apply List.map_congr_left
    intro part hpart
    exact trim_of_isTrimmed (hparts part hpart).2.1
  rw [htrim, List.filter_eq_self]
  intro part hpart
  simpa using (hparts part hpart).1

theorem parse_eq_ok_iff {text : String} {selector : Selector} :
    parse text = .ok selector ↔ readTerms (terms text.toList) = .ok selector.requirements := by
  unfold parse
  cases readTerms (terms text.toList) with
  | error fault => simp
  | ok requirements =>
      obtain ⟨expected⟩ := selector
      simp

theorem not_mem_of_mem_terms {text term : List Char} (hterm : term ∈ terms text) : ',' ∉ term := by
  obtain ⟨part, hpart, rfl⟩ := List.mem_map.mp (List.mem_of_mem_filter hterm)
  exact mt ((isInfix_trim part).subset ·) (not_mem_of_mem_splitOn hpart)

theorem isRead_of_parse {text : String} {selector : Selector}
    (hparse : parse text = .ok selector) :
    ∀ requirement ∈ selector.requirements, requirement.IsRead := by
  have hread := readTerms_eq_ok_iff.mp (parse_eq_ok_iff.mp hparse)
  have hterms : ∀ term ∈ terms text.toList, ',' ∉ term := fun _ => not_mem_of_mem_terms
  generalize terms text.toList = terms at hread hterms
  generalize selector.requirements = requirements at hread ⊢
  induction hread with
  | nil => simp
  | cons hread _ ih =>
      obtain ⟨hfirst, hrest⟩ := List.forall_mem_cons.mp hterms
      obtain ⟨rfl, hkey⟩ := readTerm_eq_ok_iff.mp hread
      exact List.forall_mem_cons.mpr ⟨Requirement.isRead_ofTerm hfirst hkey, ih hrest⟩

/-- The canonical text of a selector that was read gives the selector again exactly if all of
its requirements are plain. -/
theorem parse_render_iff {text : String} {selector : Selector}
    (hparse : parse text = .ok selector) :
    parse selector.render = .ok selector ↔
      ∀ requirement ∈ selector.requirements, requirement.IsPlain := by
  have hread := isRead_of_parse hparse
  have hterms : terms selector.render.toList = selector.requirements.map Requirement.write := by
    rw [render, String.toList_ofList]
    apply terms_joinWith
    intro part hpart
    obtain ⟨requirement, hrequirement, rfl⟩ := List.mem_map.mp hpart
    have hone := hread requirement hrequirement
    exact ⟨hone.write_ne_nil, hone.isTrimmed_write, hone.no_comma⟩
  rw [parse_eq_ok_iff, hterms, readTerms_eq_ok_iff, List.forall₂_map_left_iff, List.forall₂_same]
  apply forall₂_congr
  intro requirement hrequirement
  have hone := hread requirement hrequirement
  rw [readTerm_eq_ok_iff, hone.ofTerm_write_iff]
  exact and_iff_left hone.isKey

def tidyText : String := " app == web , !old , tier != =x==y, app=a=b "

def tidySelector : Selector :=
  ⟨[.equals "app" "web", .absent "old", .differs "tier" "=x==y", .equals "app" "a=b"]⟩

/-- The value of an inequality may hold any equality signs, and that of an equality may hold
single ones. -/
theorem parse_render_iff_tidyText :
    parse tidyText = .ok tidySelector ∧ parse tidySelector.render = .ok tidySelector := by
  have hparse : parse tidyText = .ok tidySelector := by decide +kernel
  have hplain : ∀ requirement ∈ tidySelector.requirements, requirement.IsPlain := by
    decide +kernel
  exact ⟨hparse, (parse_render_iff hparse).mpr hplain⟩

def signLabels : LabelSet := ⟨[("app", .string "=web")]⟩

/-- A third equality sign belongs to the value, and the canonical text loses it: what is sent
to the server asks for other labels than the selector does. -/
theorem parse_render_tripleSign :
    parse "app===web" = .ok ⟨[.equals "app" "=web"]⟩ ∧
      render ⟨[.equals "app" "=web"]⟩ = "app==web" ∧
      parse "app==web" = .ok ⟨[.equals "app" "web"]⟩ ∧
      accepts ⟨[.equals "app" "=web"]⟩ signLabels = true ∧
      accepts ⟨[.equals "app" "web"]⟩ signLabels = false := by
  decide +kernel

end Selector

end ResourceWatch
