import ResourceWatch.Json.Literal
import ResourceWatch.Json.Printer

/-! # Literals that are written are read back

An integer is written with its sign and its digits, a string with an escape for every
character that may not stand for itself. Both are read back as what they were, with the
text behind them left over. A number has no end of its own, so what stands behind it
must not go on with it.
-/

namespace ResourceWatch.Json

/-- Whether a text is at its end or goes on with a character that ends a value: a comma
or a closing bracket. -/
def EndsValue : List Char → Prop
  | [] => True
  | c :: _ => c = ',' ∨ c = ']' ∨ c = '\x7d'

/-! ## Integers -/

theorem ne_of_isDigit {c other : Char} (hc : c.isDigit = true) (hother : other.isDigit = false) :
    c ≠ other := by
  rintro rfl
  simp [hc] at hother

theorem isDigit_toDigits (n : Nat) : ∀ c ∈ Nat.toDigits 10 n, c.isDigit = true :=
  fun _ hc => Nat.isDigit_of_mem_toDigits (by decide) (by decide) hc

theorem toDigits_eq_cons (n : Nat) :
    ∃ (c : Char) (tail : List Char), Nat.toDigits 10 n = c :: tail ∧ c.isDigit = true := by
  obtain ⟨c, tail, hdigits⟩ := List.exists_cons_of_ne_nil (@Nat.toDigits_ne_nil n 10)
  exact ⟨c, tail, hdigits, isDigit_toDigits n c (hdigits ▸ List.mem_cons_self)⟩

/-- An integer starts with a sign or a digit, so with none of the other characters. -/
theorem writeInt_eq_cons (n : Int) :
    ∃ (c : Char) (tail : List Char), writeInt n = c :: tail ∧
      ∀ other : Char, other ≠ '-' → other.isDigit = false → c ≠ other := by
  by_cases hneg : n < 0
  · refine ⟨'-', Nat.toDigits 10 n.natAbs, by simp [writeInt, hneg], ?_⟩
    intro other hsign _
    exact hsign.symm
  · obtain ⟨c, tail, hdigits, hc⟩ := toDigits_eq_cons n.natAbs
    refine ⟨c, tail, by simp [writeInt, hneg, hdigits], ?_⟩
    exact fun other _ hdigit => ne_of_isDigit hc hdigit

namespace NumberLiteral

/-- The values of digits. -/
def digitValues (chars : List Char) : List Nat :=
  chars.map fun c => c.toNat - '0'.toNat

theorem takeDigits_of_endsValue {rest : List Char} (hrest : EndsValue rest) :
    takeDigits rest = ([], rest) := by
  cases rest with
  | nil => rfl
  | cons c rest => rcases hrest with rfl | rfl | rfl <;> rfl

/-- All digits in front of another character are taken. -/
theorem takeDigits_append {chars rest : List Char} (hchars : ∀ c ∈ chars, c.isDigit = true)
    (hrest : takeDigits rest = ([], rest)) :
    takeDigits (chars ++ rest) = (digitValues chars, rest) := by
  induction chars with
  | nil => exact hrest
  | cons c chars ih =>
      have hc := hchars c List.mem_cons_self
      have htail := ih fun d hd => hchars d (List.mem_cons_of_mem c hd)
      simp [takeDigits, digit?, hc, htail, digitValues]

/-- The digits of a number that is not zero start with another digit than zero. -/
theorem digitValues_eq_cons {n : Nat} (hn : 0 < n) :
    ∃ d digits, digitValues (Nat.toDigits 10 n) = d :: digits ∧ d ≠ 0 := by
  induction n using Nat.strongRecOn with
  | ind n ih =>
      by_cases hsmall : n < 10
      · refine ⟨n, [], ?_, Nat.pos_iff_ne_zero.mp hn⟩
        simp [Nat.toDigits_of_lt_base hsmall, digitValues, Nat.toNat_digitChar_of_lt_ten hsmall]
      · obtain ⟨d, digits, hdigits, hd⟩ := ih (n / 10) (by omega) (by omega)
        refine ⟨d, digits ++ digitValues [(n % 10).digitChar], ?_, hd⟩
        rw [Nat.toDigits_of_base_le (by decide) (by omega)]
        calc digitValues (Nat.toDigits 10 (n / 10) ++ [(n % 10).digitChar])
            = digitValues (Nat.toDigits 10 (n / 10)) ++ digitValues [(n % 10).digitChar] :=
              List.map_append
          _ = d :: (digits ++ digitValues [(n % 10).digitChar]) := by rw [hdigits]; rfl

/-- Whether characters are the digits before a point: at least one, and no zero in front of
others. -/
structure IsWhole (chars : List Char) : Prop where
  isDigit : ∀ c ∈ chars, c.isDigit = true
  first : ∃ d digits, digitValues chars = d :: digits ∧ (d ≠ 0 ∨ digits = [])

theorem isWhole_toDigits (n : Nat) : IsWhole (Nat.toDigits 10 n) := by
  refine ⟨isDigit_toDigits n, ?_⟩
  rcases Nat.eq_zero_or_pos n with rfl | hn
  · exact ⟨0, [], rfl, .inr rfl⟩
  · obtain ⟨d, digits, hvalues, hd⟩ := digitValues_eq_cons hn
    exact ⟨d, digits, hvalues, .inl hd⟩

theorem eq_cons_of_isWhole {chars : List Char} (hchars : IsWhole chars) :
    ∃ c tail, chars = c :: tail ∧ c.isDigit = true := by
  obtain ⟨d, digits, hvalues, -⟩ := hchars.first
  cases chars with
  | nil => cases hvalues
  | cons c tail => exact ⟨c, tail, rfl, hchars.isDigit c List.mem_cons_self⟩

theorem readWhole_append {chars rest : List Char} (hchars : IsWhole chars)
    (hrest : takeDigits rest = ([], rest)) :
    readWhole (chars ++ rest) = some (digitValues chars, rest) := by
  obtain ⟨d, digits, hvalues, hfirst⟩ := hchars.first
  rw [readWhole, takeDigits_append hchars.isDigit hrest, hvalues]
  split
  next heq => simp at heq
  next heq => simp_all
  next heq => simp_all

/-- The digits of a number denote it. -/
theorem ofDigits_toDigits (n : Nat) : ofDigits (digitValues (Nat.toDigits 10 n)) = n := by
  rw [ofDigits, digitValues, List.foldl_map]
  exact Nat.ofDigitChars_ten_toDigits

theorem le_foldl_digits (digits : List Nat) (value : Nat) :
    value ≤ digits.foldl (fun value d => 10 * value + d) value := by
  induction digits generalizing value with
  | nil => exact Nat.le_refl value
  | cons d digits ih => exact Nat.le_trans (by omega) (ih (10 * value + d))

/-- Digits that denote a word fit one by one. -/
theorem absorb_eq_of_lt {digits : List Nat} {value : Nat}
    (hfits : digits.foldl (fun value d => 10 * value + d) value < wordLimit) :
    absorb value digits = (digits.foldl (fun value d => 10 * value + d) value, []) := by
  induction digits generalizing value with
  | nil => rfl
  | cons d digits ih =>
      have hstep : 10 * value + d < wordLimit :=
        Nat.lt_of_le_of_lt (le_foldl_digits digits (10 * value + d)) hfits
      rw [absorb, if_pos hstep]
      exact ih hfits

/-- The literal of an integer of 64 bits denotes this integer. -/
theorem value?_of_ofDigits {n : WideInt} {digits : List Nat}
    (hdigits : ofDigits digits = n.val.natAbs) :
    value? ⟨decide (n.val < 0), digits, none, none⟩ = some (.int n) := by
  have hrange := n.inRange
  rw [WideInt.Fits] at hrange
  have habsorb : absorb 0 digits = (n.val.natAbs, []) := by
    rw [← hdigits]
    apply absorb_eq_of_lt
    change ofDigits digits < wordLimit
    rw [hdigits, wordLimit]
    omega
  have hsigned : (if decide (n.val < 0) = true then -(n.val.natAbs : Int)
      else (n.val.natAbs : Int)) = n.val := by
    split
    next hneg => have := of_decide_eq_true hneg; omega
    next hneg => have : ¬n.val < 0 := fun h => hneg (decide_eq_true h); omega
  have hzero : ¬(decide (n.val < 0) = true ∧ n.val.natAbs = 0) := by
    rintro ⟨hneg, hzero⟩
    have := of_decide_eq_true hneg
    omega
  simp only [value?, habsorb, hsigned]
  rw [dif_pos ⟨n.inRange, hzero⟩]

/-- What stands behind an integer is neither a fraction nor an exponent. -/
theorem readFraction_of_endsValue {rest : List Char} (hrest : EndsValue rest) :
    readFraction rest = some (none, rest) := by
  cases rest with
  | nil => rfl
  | cons c rest => rcases hrest with rfl | rfl | rfl <;> rfl

theorem readExponent_of_endsValue {rest : List Char} (hrest : EndsValue rest) :
    readExponent rest = some (none, rest) := by
  cases rest with
  | nil => rfl
  | cons c rest => rcases hrest with rfl | rfl | rfl <;> rfl

/-- The parts of a number are read behind its sign. -/
theorem read_signed (negative : Bool) {unsigned : List Char} (hsign : unsigned.head? ≠ some '-') :
    read ((if negative then ['-'] else []) ++ unsigned) =
      (readWhole unsigned).bind fun (whole, rest) =>
      (readFraction rest).bind fun (fraction, rest) =>
      (readExponent rest).map fun (exponent, rest) =>
      (⟨negative, whole, fraction, exponent⟩, rest) := by
  cases negative with
  | true => rfl
  | false =>
      cases unsigned with
      | nil => rfl
      | cons c rest =>
          have hc : c ≠ '-' := by simpa using hsign
          simp [read, hc]

theorem head?_of_isWhole {chars : List Char} (hchars : IsWhole chars) (rest : List Char) :
    (chars ++ rest).head? ≠ some '-' := by
  obtain ⟨c, tail, rfl, hc⟩ := eq_cons_of_isWhole hchars
  simpa using ne_of_isDigit hc rfl

/-- An integer that is written is read as a literal that denotes it. -/
theorem read_writeInt (n : WideInt) {rest : List Char} (hrest : EndsValue rest) :
    ∃ literal : NumberLiteral, read (writeInt n.val ++ rest) = some (literal, rest) ∧
      literal.value? = some (.int n) := by
  refine ⟨_, ?_, value?_of_ofDigits (ofDigits_toDigits n.val.natAbs)⟩
  have hwhole := isWhole_toDigits n.val.natAbs
  have hwrite : writeInt n.val =
      (if decide (n.val < 0) then ['-'] else []) ++ Nat.toDigits 10 n.val.natAbs := by
    simp [writeInt]
  rw [hwrite, List.append_assoc, read_signed _ (head?_of_isWhole hwhole rest),
    readWhole_append hwhole (takeDigits_of_endsValue hrest)]
  simp [readFraction_of_endsValue hrest, readExponent_of_endsValue hrest]

end NumberLiteral

/-! ## Strings -/

/-- A character has a letter of its own, or is a control given by its number, or stands
for itself. -/
theorem escape_cases (c : Char) :
    (∃ letter : Char, escape c = ['\\', letter] ∧ Piece.escaped? letter = some c) ∨
    (c.toNat < 0x20 ∧ escape c =
      ['\\', 'u', '0', '0', Nat.digitChar (c.toNat / 16), Nat.digitChar (c.toNat % 16)]) ∨
    (¬c.toNat < 0x20 ∧ c ≠ '"' ∧ c ≠ '\\' ∧ escape c = [c]) := by
  by_cases hletter : c ∈ ['"', '\\', '\x08', '\x0c', '\n', '\r', '\t']
  · left
    simp only [List.mem_cons, List.not_mem_nil, or_false] at hletter
    rcases hletter with rfl | rfl | rfl | rfl | rfl | rfl | rfl <;> exact ⟨_, rfl, rfl⟩
  · right
    simp only [List.mem_cons, List.not_mem_nil, or_false, not_or] at hletter
    by_cases hcontrol : c.toNat < 0x20
    · left
      simp [escape, hletter, hcontrol]
    · right
      simp [escape, hletter, hcontrol]

namespace Piece

/-- The digits of a control in base sixteen are read back. -/
theorem hexUnit?_of_lt {code : Nat} (hcode : code < 0x20) :
    hexUnit? '0' '0' (Nat.digitChar (code / 16)) (Nat.digitChar (code % 16)) = some code := by
  revert code
  decide

theorem readAll_of_letter {letter c : Char} (hletter : escaped? letter = some c)
    (text : List Char) :
    readAll ('\\' :: letter :: text) =
      (readAll text).map fun (pieces, tail) => (char c :: pieces, tail) := by
  have hunit : letter ≠ 'u' := by
    rintro rfl
    cases hletter
  simp [readAll, hunit, hletter]

theorem readAll_of_plain {c : Char} (hquote : c ≠ '"') (hbackslash : c ≠ '\\')
    (hcontrol : ¬c.toNat < 0x20) (text : List Char) :
    readAll (c :: text) =
      (readAll text).map fun (pieces, tail) => (char c :: pieces, tail) := by
  simp [readAll, hbackslash, hcontrol]

/-- A unit that is no half of a pair is a character of its own, whatever comes next. -/
theorem assemble_unit_cons {code : Nat} (hcode : code < 0x20) (pieces : List Piece) :
    assemble (unit code :: pieces) = (assemble pieces).map (Char.ofNat code :: ·) := by
  have hlead : isLead code = false := by simp [isLead]; omega
  have htrail : isTrail code = false := by simp [isTrail]; omega
  cases pieces with
  | nil => simp [assemble, hlead, htrail]
  | cons piece rest =>
      cases piece with
      | char c => simp [assemble, hlead, htrail]
      | unit trail => simp [assemble, hlead, htrail]

/-- The form of a character is read as one piece, and this piece denotes the
character. -/
theorem readAll_escape (c : Char) :
    ∃ piece : Piece,
      (∀ text, readAll (escape c ++ text) =
        (readAll text).map fun (pieces, tail) => (piece :: pieces, tail)) ∧
      ∀ pieces, assemble (piece :: pieces) = (assemble pieces).map (c :: ·) := by
  obtain ⟨letter, hescape, hletter⟩ | ⟨hcontrol, hescape⟩ |
    ⟨hcontrol, hquote, hbackslash, hescape⟩ := escape_cases c
  · refine ⟨char c, fun text => ?_, fun pieces => rfl⟩
    rw [hescape]
    exact readAll_of_letter hletter text
  · refine ⟨unit c.toNat, fun text => ?_, fun pieces => ?_⟩
    · simp [hescape, readAll, hexUnit?_of_lt hcontrol]
    · rw [assemble_unit_cons hcontrol, Char.ofNat_toNat]
  · refine ⟨char c, fun text => ?_, fun pieces => rfl⟩
    rw [hescape]
    exact readAll_of_plain hquote hbackslash hcontrol text

/-- The forms of some characters in front of a quote are read as pieces that denote
them. -/
theorem readAll_flatMap_escape (chars rest : List Char) :
    ∃ pieces : List Piece, readAll (chars.flatMap escape ++ '"' :: rest) = some (pieces, rest) ∧
      assemble pieces = some chars := by
  induction chars with
  | nil => exact ⟨[], by simp [readAll], rfl⟩
  | cons c chars ih =>
      obtain ⟨pieces, hread, hassemble⟩ := ih
      obtain ⟨piece, hpiece, hdenotes⟩ := readAll_escape c
      refine ⟨piece :: pieces, ?_, ?_⟩
      · rw [List.flatMap_cons, List.append_assoc, hpiece, hread]
        rfl
      · rw [hdenotes, hassemble]
        rfl

end Piece

/-- A string that is written is read back. -/
theorem readString_writeString (value : String) (rest : List Char) :
    readString (value.toList.flatMap escape ++ '"' :: rest) = some (some value, rest) := by
  obtain ⟨pieces, hread, hassemble⟩ := Piece.readAll_flatMap_escape value.toList rest
  simp [readString, hread, hassemble]

end ResourceWatch.Json
