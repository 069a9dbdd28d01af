import ResourceWatch.Proofs.LiteralRoundTrip
import ResourceWatch.Proofs.ShortestDecimal

/-! # Texts of floating-point numbers

A floating-point number is written as its shortest decimal, with a point or with an exponent.
Read as a literal, the text has exactly the value of this decimal, and so it tells the number
apart from every other number, also from the integer of the same value.
-/

namespace ResourceWatch

namespace Json.NumberLiteral

/-! ## The value of a literal -/

/-- The decimal that a literal denotes exactly, without its sign. -/
def decimal (literal : NumberLiteral) : Decimal :=
  ⟨ofDigits (literal.whole ++ literal.fraction.getD []),
    literal.exponent.getD 0 - (literal.fraction.getD []).length⟩

/-- Whether a literal has a part that no integer has. -/
def HasPoint (literal : NumberLiteral) : Prop :=
  literal.fraction.isSome ∨ literal.exponent.isSome

theorem ofDigits_digitValues (chars : List Char) :
    ofDigits (digitValues chars) = Nat.ofDigitChars 10 chars 0 := by
  rw [ofDigits, digitValues, List.foldl_map]
  rfl

theorem digitValues_append (chars more : List Char) :
    digitValues (chars ++ more) = digitValues chars ++ digitValues more :=
  List.map_append

theorem length_digitValues (chars : List Char) : (digitValues chars).length = chars.length :=
  List.length_map _

theorem decimal_of_parts {x : Decimal} (negative : Bool) {whole fraction : List Char}
    {digits : Option (List Nat)} {exponent : Option Int}
    (hfraction : digits.getD [] = digitValues fraction)
    (hdigits : Nat.ofDigitChars 10 (whole ++ fraction) 0 = x.digits)
    (hexponent : x.exponent = exponent.getD 0 - fraction.length) :
    decimal ⟨negative, digitValues whole, digits, exponent⟩ = x := by
  rw [decimal, hfraction, ← digitValues_append, ofDigits_digitValues, length_digitValues, hdigits,
    ← hexponent]

theorem not_hasPoint_of_int {literal : NumberLiteral} {n : WideInt}
    (hvalue : literal.value? = some (.int n)) : ¬literal.HasPoint := by
  rintro (hfraction | hexponent)
  · obtain ⟨fraction, hfraction⟩ := Option.isSome_iff_exists.mp hfraction
    simp [value?, hfraction, float?] at hvalue
  · obtain ⟨exponent, hexponent⟩ := Option.isSome_iff_exists.mp hexponent
    simp [value?, hexponent, float?] at hvalue

/-! ## Reading the parts -/

theorem readFraction_append {chars rest : List Char} (hne : chars ≠ [])
    (hchars : ∀ c ∈ chars, c.isDigit = true) (hrest : takeDigits rest = ([], rest)) :
    readFraction ('.' :: (chars ++ rest)) = some (some (digitValues chars), rest) := by
  obtain ⟨c, chars, rfl⟩ := List.exists_cons_of_ne_nil hne
  rw [readFraction, takeDigits_append hchars hrest]
  rfl

/-- The sign of an exponent. -/
def exponentSign (format : DecimalFormat) (power : Int) : List Char :=
  if power < 0 then ['-'] else if format.plusSign then ['+'] else []

theorem readExponentDigits_append (negative : Bool) (n : Nat) {rest : List Char}
    (hrest : EndsValue rest) :
    readExponentDigits negative (Nat.toDigits 10 n ++ rest) =
      some (some (if negative then -(n : Int) else n), rest) := by
  obtain ⟨d, digits, hvalues, -⟩ := (isWhole_toDigits n).first
  have hdenoted := ofDigits_toDigits n
  rw [hvalues] at hdenoted
  rw [readExponentDigits, takeDigits_append (isDigit_toDigits n) (takeDigits_of_endsValue hrest),
    hvalues]
  simp [hdenoted]

theorem readExponent_append (format : DecimalFormat) (power : Int) {rest : List Char}
    (hrest : EndsValue rest) :
    readExponent ('e' :: (exponentSign format power ++ (Nat.toDigits 10 power.natAbs ++ rest))) =
      some (some power, rest) := by
  unfold exponentSign
  split
  next hpower =>
    have habs : -(power.natAbs : Int) = power := by omega
    change readExponentDigits true (Nat.toDigits 10 power.natAbs ++ rest) = _
    rw [readExponentDigits_append true _ hrest, if_pos rfl, habs]
  next hpower =>
    have habs : (power.natAbs : Int) = power := by omega
    have hread : readExponentDigits false (Nat.toDigits 10 power.natAbs ++ rest) =
        some (some power, rest) := by
      rw [readExponentDigits_append false _ hrest, if_neg Bool.false_ne_true, habs]
    split
    next => exact hread
    next =>
      -- A digit is none of the two signs.
      obtain ⟨c, tail, hdigits, hc⟩ := toDigits_eq_cons power.natAbs
      have hplus : c ≠ '+' := ne_of_isDigit hc rfl
      have hminus : c ≠ '-' := ne_of_isDigit hc rfl
      rw [hdigits] at hread ⊢
      simpa [readExponent, hplus, hminus] using hread

/-! ## Texts with a point or an exponent -/

/-- A point before digits, if there are any. -/
def pointBefore (fraction : List Char) : List Char :=
  if fraction = [] then [] else '.' :: fraction

/-- Whether a text is a decimal with a point or an exponent. -/
inductive Spells (format : DecimalFormat) : List Char → Decimal → Prop where
  | positional {whole fraction : List Char} {x : Decimal} (hwhole : IsWhole whole)
      (hfraction : ∀ c ∈ fraction, c.isDigit = true) (hne : fraction ≠ [])
      (hdigits : Nat.ofDigitChars 10 (whole ++ fraction) 0 = x.digits)
      (hexponent : x.exponent = 0 - fraction.length) :
      Spells format (whole ++ '.' :: fraction) x
  | scientific {whole fraction : List Char} {x : Decimal} (hwhole : IsWhole whole)
      (hfraction : ∀ c ∈ fraction, c.isDigit = true) (power : Int)
      (hdigits : Nat.ofDigitChars 10 (whole ++ fraction) 0 = x.digits)
      (hexponent : x.exponent = power - fraction.length) :
      Spells format
        (whole ++ pointBefore fraction ++ 'e' :: exponentSign format power ++
          Nat.toDigits 10 power.natAbs) x

theorem Spells.eq_cons {format : DecimalFormat} {text : List Char} {x : Decimal}
    (hspells : Spells format text x) : ∃ c tail, text = c :: tail ∧ c.isDigit = true := by
  cases hspells with
  | positional hwhole | scientific hwhole =>
      obtain ⟨c, tail, rfl, hc⟩ := eq_cons_of_isWhole hwhole
      exact ⟨c, _, rfl, hc⟩

/-- Such a text is read as a literal of this decimal. -/
theorem Spells.read {format : DecimalFormat} {text : List Char} {x : Decimal}
    (hspells : Spells format text x) (negative : Bool) {rest : List Char}
    (hrest : EndsValue rest) :
    ∃ literal : NumberLiteral,
      NumberLiteral.read ((if negative then ['-'] else []) ++ (text ++ rest)) =
          some (literal, rest) ∧
        literal.negative = negative ∧ literal.decimal = x ∧ literal.HasPoint := by
  cases hspells with
  | @positional whole fraction _ hwhole hfraction hne hdigits hexponent =>
      refine ⟨⟨negative, digitValues whole, some (digitValues fraction), none⟩, ?_, rfl,
        decimal_of_parts negative rfl hdigits hexponent, .inl rfl⟩
      rw [List.append_assoc, read_signed negative (head?_of_isWhole hwhole _),
        readWhole_append hwhole rfl]
      simp [readFraction_append hne hfraction (takeDigits_of_endsValue hrest),
        readExponent_of_endsValue hrest]
  | @scientific whole fraction _ hwhole hfraction power hdigits hexponent =>
      have hpower := readExponent_append format power hrest
      by_cases hne : fraction = []
      · subst hne
        refine ⟨⟨negative, digitValues whole, none, some power⟩, ?_, rfl,
          decimal_of_parts negative rfl hdigits hexponent, .inr rfl⟩
        simp only [pointBefore, if_true, List.append_nil, List.append_assoc, List.cons_append]
        rw [read_signed negative (head?_of_isWhole hwhole _), readWhole_append hwhole rfl]
        simp [readFraction, hpower]
      · refine ⟨⟨negative, digitValues whole, some (digitValues fraction), some power⟩, ?_, rfl,
          decimal_of_parts negative rfl hdigits hexponent, .inl rfl⟩
        simp only [pointBefore, if_neg hne, List.append_assoc, List.cons_append]
        rw [read_signed negative (head?_of_isWhole hwhole _), readWhole_append hwhole rfl]
        simp [readFraction_append hne hfraction, takeDigits, digit?, hpower]

/-! ## Decimals as texts -/

theorem isDigit_zeros (count : Nat) : ∀ c ∈ List.replicate count '0', c.isDigit = true := by
  intro c hc
  rw [List.eq_of_mem_replicate hc]
  rfl

theorem isWhole_take {n : Nat} (hn : 0 < n) (count : Nat) :
    IsWhole ((Nat.toDigits 10 n).take (count + 1)) := by
  obtain ⟨d, digits, hvalues, hd⟩ := digitValues_eq_cons hn
  refine ⟨fun c hc => isDigit_toDigits n c (List.mem_of_mem_take hc), d, digits.take count, ?_,
    .inl hd⟩
  rw [digitValues, List.map_take, ← digitValues, hvalues, List.take_succ_cons]

theorem isWhole_append_zeros {n : Nat} (hn : 0 < n) (count : Nat) :
    IsWhole (Nat.toDigits 10 n ++ List.replicate count '0') := by
  obtain ⟨d, digits, hvalues, hd⟩ := digitValues_eq_cons hn
  refine ⟨List.forall_mem_append.mpr ⟨isDigit_toDigits n, isDigit_zeros count⟩, d,
    digits ++ digitValues (List.replicate count '0'), ?_, .inl hd⟩
  rw [digitValues_append, hvalues, List.cons_append]

section Write

variable (format : DecimalFormat) {x : Decimal}

/-- Without places behind the point one zero stands there, which leaves the value. -/
theorem spells_zeros (hx : 0 < x.digits) (hexponent : 0 ≤ x.exponent) :
    ∃ d, Spells format
        (Nat.toDigits 10 x.digits ++ List.replicate x.exponent.toNat '0' ++ ['.', '0']) d ∧
      d.value = x.value := by
  refine ⟨⟨10 * (10 ^ x.exponent.toNat * x.digits), -1⟩, ?_, ?_⟩
  · refine .positional (isWhole_append_zeros hx _) (isDigit_zeros 1) (by decide) ?_ rfl
    rw [Nat.ofDigitChars_append, Nat.ofDigitChars_append, Nat.ofDigitChars_ten_toDigits,
      Nat.ofDigitChars_replicate_zero]
    rfl
  · have hpower : (10 : ℚ) ^ x.exponent = 10 ^ x.exponent.toNat := by
      rw [← zpow_natCast, Int.toNat_of_nonneg hexponent]
    rw [Decimal.value, Decimal.value, hpower]
    push_cast
    ring

/-- The point stands between two digits. -/
theorem spells_between (hx : 0 < x.digits) {count : Nat} (hexponent : x.exponent < 0)
    (hcount : x.exponent = count + 1 - (Nat.toDigits 10 x.digits).length) :
    Spells format ((Nat.toDigits 10 x.digits).take (count + 1) ++
      '.' :: (Nat.toDigits 10 x.digits).drop (count + 1)) x := by
  refine .positional (isWhole_take hx count) ?_ ?_ ?_ ?_
  · exact fun c hc => isDigit_toDigits _ c (List.mem_of_mem_drop hc)
  · rw [ne_eq, List.drop_eq_nil_iff]
    omega
  · rw [List.take_append_drop, Nat.ofDigitChars_ten_toDigits]
  · rw [List.length_drop]
    omega

/-- Zeros stand between the point and the digits. -/
theorem spells_leadingZeros {count : Nat}
    (hcount : x.exponent = -(count + (Nat.toDigits 10 x.digits).length)) :
    Spells format ('0' :: '.' :: List.replicate count '0' ++ Nat.toDigits 10 x.digits) x := by
  refine @Spells.positional format ['0'] (List.replicate count '0' ++ Nat.toDigits 10 x.digits) x
    (isWhole_toDigits 0) ?_ ?_ ?_ ?_
  · exact List.forall_mem_append.mpr ⟨isDigit_zeros count, isDigit_toDigits _⟩
  · exact List.append_ne_nil_of_right_ne_nil _ Nat.toDigits_ne_nil
  · have hzero : Nat.ofDigitChars 10 ['0'] 0 = 0 := rfl
    rw [Nat.ofDigitChars_append, Nat.ofDigitChars_append, Nat.ofDigitChars_replicate_zero, hzero,
      Nat.mul_zero, Nat.ofDigitChars_ten_toDigits]
  · rw [List.length_append, List.length_replicate]
    omega

/-- The first digit stands before the point and the power of ten behind the others. -/
theorem spells_scientific (hx : 0 < x.digits) {power : Int}
    (hpower : power = x.exponent + ((Nat.toDigits 10 x.digits).length - 1 : Nat)) :
    Spells format ((Nat.toDigits 10 x.digits).take 1 ++
      pointBefore ((Nat.toDigits 10 x.digits).drop 1) ++ 'e' :: exponentSign format power ++
        Nat.toDigits 10 power.natAbs) x := by
  refine .scientific (isWhole_take hx 0) ?_ power ?_ ?_
  · exact fun c hc => isDigit_toDigits _ c (List.mem_of_mem_drop hc)
  · rw [List.take_append_drop, Nat.ofDigitChars_ten_toDigits]
  · rw [List.length_drop]
    omega

/-- A positive decimal is written as a text that spells its value. -/
theorem spells_write (hx : 0 < x.digits) :
    ∃ d, Spells format (format.write x) d ∧ d.value = x.value := by
  have hlength : 0 < (Nat.toDigits 10 x.digits).length :=
    List.length_pos_iff.mpr Nat.toDigits_ne_nil
  simp only [DecimalFormat.write]
  generalize hpower : x.exponent + ((Nat.toDigits 10 x.digits).length - 1 : Nat) = power
  split
  next =>
    split
    next hexponent => exact spells_zeros format hx hexponent
    next hexponent =>
      split
      next => exact ⟨x, spells_between format hx (by omega) (by omega), rfl⟩
      next => exact ⟨x, spells_leadingZeros format (by omega), rfl⟩
  next =>
    have hfraction : (if (Nat.toDigits 10 x.digits).length = 1 then []
        else '.' :: (Nat.toDigits 10 x.digits).drop 1) =
          pointBefore ((Nat.toDigits 10 x.digits).drop 1) :=
      if_congr (by rw [List.drop_eq_nil_iff]; omega) rfl rfl
    rw [hfraction]
    exact ⟨x, spells_scientific format hx hpower.symm, rfl⟩

end Write

end Json.NumberLiteral

/-! ## Numbers as texts -/

namespace Binary64

/-- The value of the decimal as which a number is written. -/
def writtenValue (x : Binary64) : ℚ := if x.isZero then 0 else x.shortest.value

theorem writtenValue_eq_zero_iff (x : Binary64) : x.writtenValue = 0 ↔ x.significand = 0 := by
  unfold writtenValue isZero
  rcases Nat.eq_zero_or_pos x.significand with hzero | hpos
  · simp [hzero]
  · simp [Nat.ne_of_gt hpos, ne_of_gt (value_shortest_pos hpos)]

theorem writtenValue_of_pos {x : Binary64} (hx : 0 < x.significand) :
    x.writtenValue = x.shortest.value :=
  if_neg (by simp [isZero, Nat.ne_of_gt hx])

theorem exponent_of_zero {x : Binary64} (hx : x.significand = 0) : x.exponent = minExponent :=
  x.canonical.2.2.2.resolve_right (by rw [hx]; decide)

/-- A number without its sign is written as a text that spells the value of its decimal. -/
theorem spells_magnitude (format : DecimalFormat) (x : Binary64) :
    ∃ d, Json.NumberLiteral.Spells format
        (if x.isZero then ['0', '.', '0'] else format.write x.shortest) d ∧
      d.value = x.writtenValue := by
  unfold writtenValue
  split
  next =>
    refine ⟨⟨0, -1⟩, ?_, by simp [Decimal.value]⟩
    exact .positional (Json.NumberLiteral.isWhole_toDigits 0) (Json.NumberLiteral.isDigit_zeros 1)
      (by decide) rfl rfl
  next hzero =>
    have hx : 0 < x.significand := Nat.pos_of_ne_zero (by simpa [isZero] using hzero)
    apply Json.NumberLiteral.spells_write
    by_contra hdigits
    have hpos := value_shortest_pos hx
    rw [Decimal.value, Nat.eq_zero_of_not_pos hdigits] at hpos
    simp at hpos

/-- Only the same number is written with the same sign and value. -/
theorem eq_of_writtenValue {x y : Binary64} (hsign : x.negative = y.negative)
    (hvalue : x.writtenValue = y.writtenValue) : x = y := by
  have hzero := (writtenValue_eq_zero_iff x).symm.trans (hvalue ▸ writtenValue_eq_zero_iff y)
  rcases Nat.eq_zero_or_pos x.significand with hx | hx
  · have hy := hzero.mp hx
    have hexponent : x.exponent = y.exponent := by
      rw [exponent_of_zero hx, exponent_of_zero hy]
    exact Binary64.ext hsign (hx.trans hy.symm) hexponent
  · have hy : 0 < y.significand := Nat.pos_of_ne_zero fun hy => Nat.ne_of_gt hx (hzero.mpr hy)
    rw [writtenValue_of_pos hx, writtenValue_of_pos hy] at hvalue
    obtain ⟨hsignificand, hexponent⟩ := eq_of_value_shortest hx hy hvalue
    exact Binary64.ext hsign hsignificand hexponent

end Binary64

namespace Json

open NumberLiteral

/-- Whether a literal is the exact form of a number. -/
def NumberLiteral.Denotes (literal : NumberLiteral) : Number → Prop
  | .int n => literal.value? = some (.int n)
  | .float x =>
    literal.negative = x.negative ∧ literal.decimal.value = x.writtenValue ∧ literal.HasPoint

/-- A literal is the exact form of one number only. -/
theorem NumberLiteral.Denotes.unique {literal : NumberLiteral} {m n : Number}
    (hm : literal.Denotes m) (hn : literal.Denotes n) : m = n := by
  cases m with
  | int m =>
      cases n with
      | int n => exact Option.some.inj (hm.symm.trans hn)
      | float y => exact absurd hn.2.2 (not_hasPoint_of_int hm)
  | float x =>
      cases n with
      | int n => exact absurd hm.2.2 (not_hasPoint_of_int hn)
      | float y =>
          obtain ⟨hxsign, hxvalue, -⟩ := hm
          obtain ⟨hysign, hyvalue, -⟩ := hn
          rw [Binary64.eq_of_writtenValue (hxsign.symm.trans hysign) (hxvalue.symm.trans hyvalue)]

/-- A number that is written is read as its exact form. -/
theorem read_writeNumber (n : Number) {rest : List Char} (hrest : EndsValue rest) :
    ∃ literal : NumberLiteral, NumberLiteral.read (writeNumber n ++ rest) = some (literal, rest) ∧
      literal.Denotes n := by
  cases n with
  | int n => exact read_writeInt n hrest
  | float x =>
      obtain ⟨d, hspells, hvalue⟩ := x.spells_magnitude floatFormat
      obtain ⟨literal, hread, hsign, hdecimal, hpoint⟩ := hspells.read x.negative hrest
      refine ⟨literal, ?_, hsign, by rw [hdecimal, hvalue], hpoint⟩
      rw [← hread, writeNumber, DecimalFormat.writeBinary64, List.append_assoc]

/-- A number starts with a sign or a digit, so with none of the other characters. -/
theorem writeNumber_eq_cons (n : Number) :
    ∃ (c : Char) (tail : List Char), writeNumber n = c :: tail ∧
      ∀ other : Char, other ≠ '-' → other.isDigit = false → c ≠ other := by
  cases n with
  | int n => exact writeInt_eq_cons n.val
  | float x =>
      obtain ⟨d, hspells, -⟩ := x.spells_magnitude floatFormat
      obtain ⟨c, tail, htext, hc⟩ := hspells.eq_cons
      rw [writeNumber, DecimalFormat.writeBinary64, htext]
      split
      next => exact ⟨'-', c :: tail, rfl, fun other hsign _ => hsign.symm⟩
      next => exact ⟨c, tail, rfl, fun other _ hdigit => ne_of_isDigit hc hdigit⟩

/-- Numbers with the same text are the same number. -/
theorem eq_of_writeNumber {m n : Number} {rest other : List Char} (hrest : EndsValue rest)
    (hother : EndsValue other) (htext : writeNumber m ++ rest = writeNumber n ++ other) :
    m = n ∧ rest = other := by
  obtain ⟨literal, hread, hm⟩ := read_writeNumber m hrest
  obtain ⟨same, hsame, hn⟩ := read_writeNumber n hother
  rw [htext, hsame, Option.some.injEq, Prod.mk.injEq] at hread
  obtain ⟨rfl, rfl⟩ := hread
  exact ⟨hm.unique hn, rfl⟩

end Json

end ResourceWatch
