/-! # Cutting text

Cutting a text at the first place where a pattern stands, at every place where a
character stands, and into lines. The functions work on the characters of a text,
and none of them drops a character that is not part of a cut.
-/

namespace ResourceWatch.Text

/-- What follows a pattern at the start of a text, if the text starts with it. -/
def afterStart (pattern text : List Char) : Option (List Char) :=
  pattern.isPrefixOf? text

/-- What precedes a pattern at the end of a text, if the text ends with it. -/
def beforeEnd (pattern text : List Char) : Option (List Char) :=
  pattern.isSuffixOf? text

/-- The text before and after the first place where a pattern stands. -/
def cutAt (pattern : List Char) : List Char → Option (List Char × List Char)
  | [] => if pattern.isEmpty then some ([], []) else none
  | c :: rest =>
    match afterStart pattern (c :: rest) with
    | some tail => some ([], tail)
    | none => (cutAt pattern rest).map fun (head, tail) => (c :: head, tail)

/-- The parts of a text between the places where a separator stands. A text
without the separator is its own only part. -/
def splitOn (separator : Char) : List Char → List (List Char)
  | [] => [[]]
  | c :: rest =>
    if c = separator then [] :: splitOn separator rest
    else
      match splitOn separator rest with
      | [] => [[c]]
      | part :: parts => (c :: part) :: parts

/-- The texts with a separator between each two. -/
def joinWith (separator : Char) : List (List Char) → List Char
  | [] => []
  | [part] => part
  | part :: parts => part ++ separator :: joinWith separator parts

/-- A line without the carriage return that may stand before its line feed. -/
def withoutReturn (line : List Char) : List Char :=
  (beforeEnd ['\r'] line).getD line

/-- The lines of a text. A line ends with a line feed, which a carriage return
may precede; a last line without a line feed is kept whole, and no empty line
follows the last line feed. -/
def lines (text : List Char) : List (List Char) :=
  let parts := splitOn '\n' text
  let ended := parts.dropLast.map withoutReturn
  match parts.getLast? with
  | none | some [] => ended
  | some last => ended ++ [last]

theorem splitOn_ne_nil (separator : Char) (text : List Char) : splitOn separator text ≠ [] := by
  cases text with
  | nil => simp [splitOn]
  | cons c rest =>
    rw [splitOn]
    split
    · simp
    · split <;> simp

theorem joinWith_cons_cons (separator : Char) (part next : List Char) (more : List (List Char)) :
    joinWith separator (part :: next :: more) =
      part ++ separator :: joinWith separator (next :: more) := rfl

theorem splitOn_of_not_mem {separator : Char} {part : List Char} (hpart : separator ∉ part) :
    splitOn separator part = [part] := by
  induction part with
  | nil => rfl
  | cons c rest ih =>
    obtain ⟨hc, hrest⟩ := not_or.mp (mt List.mem_cons.mpr hpart)
    rw [splitOn, if_neg (Ne.symm hc), ih hrest]

/-- A text is split on both sides of a separator. -/
theorem splitOn_append (separator : Char) (front back : List Char) :
    splitOn separator (front ++ separator :: back) =
      splitOn separator front ++ splitOn separator back := by
  induction front with
  | nil => simp [splitOn]
  | cons c rest ih =>
    simp only [List.cons_append, splitOn, ih]
    split
    · rfl
    · cases hparts : splitOn separator rest with
      | nil => exact absurd hparts (splitOn_ne_nil separator rest)
      | cons part parts => rfl

theorem splitOn_append_cons {separator : Char} {part : List Char} (hpart : separator ∉ part)
    (rest : List Char) :
    splitOn separator (part ++ separator :: rest) = part :: splitOn separator rest := by
  rw [splitOn_append, splitOn_of_not_mem hpart, List.singleton_append]

/-- Splitting undoes joining where there is a part and none has the separator in it. -/
theorem splitOn_joinWith {separator : Char} {parts : List (List Char)} (hparts : parts ≠ [])
    (hclean : ∀ part ∈ parts, separator ∉ part) :
    splitOn separator (joinWith separator parts) = parts := by
  induction parts with
  | nil => exact absurd rfl hparts
  | cons part rest ih =>
    obtain ⟨hpart, hrest⟩ := List.forall_mem_cons.mp hclean
    cases rest with
    | nil => exact splitOn_of_not_mem hpart
    | cons next more =>
      rw [joinWith_cons_cons, splitOn_append_cons hpart, ih (List.cons_ne_nil _ _) hrest]

theorem not_mem_joinWith {separator c : Char} (hc : c ≠ separator) {parts : List (List Char)}
    (hparts : ∀ part ∈ parts, c ∉ part) : c ∉ joinWith separator parts := by
  induction parts with
  | nil => exact List.not_mem_nil
  | cons part rest ih =>
    obtain ⟨hpart, hrest⟩ := List.forall_mem_cons.mp hparts
    cases rest with
    | nil => exact hpart
    | cons next more =>
      rw [joinWith_cons_cons, List.mem_append, List.mem_cons]
      rintro (hmem | rfl | hmem)
      · exact hpart hmem
      · exact hc rfl
      · exact ih hrest hmem

/-- Joined texts are joined across the place between them. -/
theorem joinWith_append (separator : Char) {front back : List (List Char)} (hfront : front ≠ [])
    (hback : back ≠ []) :
    joinWith separator (front ++ back) =
      joinWith separator front ++ separator :: joinWith separator back := by
  induction front with
  | nil => exact absurd rfl hfront
  | cons part rest ih =>
    cases rest with
    | nil =>
      cases back with
      | nil => exact absurd rfl hback
      | cons next more => rfl
    | cons next more =>
      have hrest := ih (List.cons_ne_nil _ _)
      rw [List.cons_append] at hrest
      rw [List.cons_append, List.cons_append, joinWith_cons_cons, hrest, joinWith_cons_cons,
        List.append_assoc, List.cons_append]

end ResourceWatch.Text
