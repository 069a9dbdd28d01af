import Mathlib.Algebra.Order.Field.Power
import Mathlib.Algebra.Order.Field.Rat
import Mathlib.Data.List.TakeWhile
import Mathlib.Tactic.Linarith
import Mathlib.Tactic.Positivity
import Mathlib.Tactic.Ring
import ResourceWatch.Number.Shortest

/-! # The shortest decimal tells numbers apart

A decimal rounds to at most one positive number, since the intervals of two numbers have no
decimal in common: where they meet, one of the significands is odd and leaves out the end. The
shortest decimal of a number rounds to it, because at the latest the nearest decimal with
seventeen digits does. So the value of its shortest decimal determines a number.
-/

namespace ResourceWatch

/-! ## Values of fractions -/

@[simp] theorem cast_twoTo (exponent : Nat) : ((twoTo exponent : Nat) : ℚ) = 2 ^ exponent :=
  Nat.cast_pow 2 exponent

@[simp] theorem cast_tenTo (exponent : Nat) : ((tenTo exponent : Nat) : ℚ) = 10 ^ exponent :=
  Nat.cast_pow 10 exponent

theorem twoTo_pos (exponent : Nat) : 0 < twoTo exponent := Nat.pow_pos (by decide)

theorem tenTo_pos (exponent : Nat) : 0 < tenTo exponent := Nat.pow_pos (by decide)

/-- One of the two powers is one, as an exponent is negative or its opposite is. -/
theorem zpow_mul_pow_neg {base : ℚ} (hbase : base ≠ 0) (exponent : ℤ) :
    base ^ exponent * base ^ (-exponent).toNat = base ^ exponent.toNat := by
  rw [← zpow_natCast, ← zpow_natCast, ← zpow_add₀ hbase]
  congr 1
  omega

namespace Decimal

/-- The number that a decimal denotes. -/
def value (x : Decimal) : ℚ := x.digits * 10 ^ x.exponent

theorem fraction_fst (x : Decimal) : (x.fraction.1 : ℚ) = x.value * x.fraction.2 := by
  simp only [fraction, value, Nat.cast_mul, cast_tenTo]
  rw [mul_assoc, zpow_mul_pow_neg (by norm_num)]

theorem fraction_snd_pos (x : Decimal) : 0 < x.fraction.2 := tenTo_pos _

end Decimal

namespace Binary64

/-- The magnitude of a number. -/
def value (x : Binary64) : ℚ := x.significand * 2 ^ x.exponent

theorem scaled_fst (num : Nat) (exponent : Int) :
    ((scaled num exponent).1 : ℚ) = num * 2 ^ exponent * (scaled num exponent).2 := by
  simp only [scaled, Nat.cast_mul, cast_twoTo]
  rw [mul_assoc, zpow_mul_pow_neg (by norm_num)]

theorem scaled_snd_pos (num : Nat) (exponent : Int) : 0 < (scaled num exponent).2 :=
  twoTo_pos _

/-! ## The interval of a number -/

/-- A quarter of the last place of a number. -/
def quarter (x : Binary64) : ℚ := 2 ^ (x.exponent - 2)

/-- The lower end of the interval that rounds to a positive number, in quarters of the last
place. -/
def lowEnd (x : Binary64) : Nat :=
  4 * x.significand -
    if x.significand = twoTo (precision - 1) ∧ minExponent < x.exponent then 1 else 2

/-- The upper end of the interval. -/
def highEnd (x : Binary64) : Nat := 4 * x.significand + 2

theorem quarter_pos (x : Binary64) : 0 < x.quarter := by
  unfold quarter
  positivity

theorem value_eq_quarters (x : Binary64) : x.value = 4 * x.significand * x.quarter := by
  rw [value, quarter, zpow_sub₀ (by norm_num)]
  ring

section Crosswise

variable {unit unitDen num den : Nat} {q v : ℚ} (hunit : (unit : ℚ) = q * unitDen)
  (hnum : (num : ℚ) = v * den) (hunitDen : 0 < unitDen) (hden : 0 < den) (count : Nat)
include hunit hnum hunitDen hden

/-- Fractions are compared crosswise. -/
theorem crosswise_le :
    (count * unit * den ≤ num * unitDen ↔ count * q ≤ v) ∧
      (num * unitDen ≤ count * unit * den ↔ v ≤ count * q) := by
  have hpos : (0 : ℚ) < unitDen * den := by positivity
  have hcount : ((count * unit * den : Nat) : ℚ) = count * q * (unitDen * den) := by
    push_cast
    rw [hunit]
    ring
  have hvalue : ((num * unitDen : Nat) : ℚ) = v * (unitDen * den) := by
    push_cast
    rw [hnum]
    ring
  constructor <;>
    rw [← @Nat.cast_le ℚ, hcount, hvalue, mul_le_mul_iff_left₀ hpos]

end Crosswise

/-- An interval has its ends exactly if the significand is even. -/
theorem roundsTo_iff (x : Binary64) (candidate : Decimal) :
    x.roundsTo candidate = true ↔
      if x.significand % 2 = 0 then
        x.lowEnd * x.quarter ≤ candidate.value ∧ candidate.value ≤ x.highEnd * x.quarter
      else x.lowEnd * x.quarter < candidate.value ∧ candidate.value < x.highEnd * x.quarter := by
  have hunit : ((scaled 1 (x.exponent - 2)).1 : ℚ) =
      x.quarter * (scaled 1 (x.exponent - 2)).2 := by
    rw [scaled_fst, Nat.cast_one, one_mul, quarter]
  have hcompare := crosswise_le hunit candidate.fraction_fst (scaled_snd_pos _ _)
    candidate.fraction_snd_pos
  simp only [roundsTo]
  split
  next =>
    rw [Bool.and_eq_true, decide_eq_true_iff, decide_eq_true_iff]
    exact and_congr (hcompare x.lowEnd).1 (hcompare x.highEnd).2
  next =>
    rw [Bool.and_eq_true, decide_eq_true_iff, decide_eq_true_iff]
    exact and_congr (lt_iff_lt_of_le_iff_le (hcompare x.lowEnd).2)
      (lt_iff_lt_of_le_iff_le (hcompare x.highEnd).1)

theorem bounds_of_roundsTo {x : Binary64} {candidate : Decimal}
    (hrounds : x.roundsTo candidate = true) :
    x.lowEnd * x.quarter ≤ candidate.value ∧ candidate.value ≤ x.highEnd * x.quarter := by
  rw [roundsTo_iff] at hrounds
  split at hrounds
  next => exact hrounds
  next => exact ⟨hrounds.1.le, hrounds.2.le⟩

/-- Only an even significand has the ends of its interval. -/
theorem even_of_roundsTo {x : Binary64} {candidate : Decimal}
    (hrounds : x.roundsTo candidate = true)
    (hend : candidate.value = x.lowEnd * x.quarter ∨ candidate.value = x.highEnd * x.quarter) :
    x.significand % 2 = 0 := by
  rw [roundsTo_iff] at hrounds
  split at hrounds
  next heven => exact heven
  next => rcases hend with hend | hend <;> linarith

/-! ## Numbers apart -/

/-- With the same exponent the intervals of different numbers meet at most in an end. -/
theorem highEnd_le_of_significand_lt {x y : Binary64} (hlt : x.significand < y.significand) :
    x.highEnd ≤ y.lowEnd ∧
      (x.significand % 2 = 0 → y.significand % 2 = 0 → x.highEnd < y.lowEnd) := by
  unfold highEnd lowEnd
  split <;> omega

/-- A place of a number with a larger exponent is worth at least two, and its significand uses
all its bits. -/
theorem highEnd_le_of_exponent_lt {x y : Binary64} (hlt : x.exponent < y.exponent) :
    x.highEnd ≤ 2 * y.lowEnd ∧ (x.significand % 2 = 0 → x.highEnd < 2 * y.lowEnd) := by
  obtain ⟨hx, hleast, -⟩ := x.canonical
  have hy : twoTo (precision - 1) ≤ y.significand := y.canonical.2.2.2.resolve_left (by omega)
  have hall : twoTo precision = 2 * 2 ^ 52 := rfl
  have hhalf : twoTo (precision - 1) = 2 ^ 52 := rfl
  unfold highEnd lowEnd
  split <;> omega

theorem two_mul_quarter_le {x y : Binary64} (hlt : x.exponent < y.exponent) :
    2 * x.quarter ≤ y.quarter :=
  calc 2 * x.quarter
    _ = 2 ^ (x.exponent - 2 + 1) := by rw [zpow_add_one₀ (by norm_num), mul_comm, quarter]
    _ ≤ y.quarter := zpow_le_zpow_right₀ (by norm_num) (by omega)

/-- Whether a number comes before another one in the order of magnitudes. -/
def Before (x y : Binary64) : Prop :=
  x.exponent < y.exponent ∨ x.exponent = y.exponent ∧ x.significand < y.significand

/-- The interval of a number ends where that of a larger one begins, or before it. -/
theorem Before.highEnd_le {x y : Binary64} (hbefore : x.Before y) :
    x.highEnd * x.quarter ≤ y.lowEnd * y.quarter ∧
      (x.significand % 2 = 0 → y.significand % 2 = 0 →
        x.highEnd * x.quarter < y.lowEnd * y.quarter) := by
  have hquarter := x.quarter_pos
  rcases hbefore with hexponent | ⟨hexponent, hsignificand⟩
  · -- Both ends are compared in quarters of the smaller number.
    obtain ⟨hle, hlt⟩ := highEnd_le_of_exponent_lt hexponent
    have hends : (2 * y.lowEnd : ℚ) * x.quarter ≤ y.lowEnd * y.quarter := by
      rw [mul_comm (2 : ℚ), mul_assoc]
      exact mul_le_mul_of_nonneg_left (two_mul_quarter_le hexponent) (Nat.cast_nonneg _)
    refine ⟨le_trans ?_ hends, fun heven _ => lt_of_lt_of_le ?_ hends⟩
    · exact mul_le_mul_of_nonneg_right (mod_cast hle) hquarter.le
    · exact mul_lt_mul_of_pos_right (mod_cast hlt heven) hquarter
  · obtain ⟨hle, hlt⟩ := highEnd_le_of_significand_lt hsignificand
    have hsame : y.quarter = x.quarter := by rw [quarter, quarter, hexponent]
    rw [hsame]
    refine ⟨?_, fun hx hy => ?_⟩
    · exact mul_le_mul_of_nonneg_right (mod_cast hle) hquarter.le
    · exact mul_lt_mul_of_pos_right (mod_cast hlt hx hy) hquarter

/-- No decimal rounds to two numbers of which one comes before the other. -/
theorem Before.not_roundsTo {x y : Binary64} (hbefore : x.Before y) {candidate : Decimal}
    (hx : x.roundsTo candidate = true) : ¬y.roundsTo candidate = true := by
  intro hy
  obtain ⟨hle, hlt⟩ := hbefore.highEnd_le
  have hhigh := (bounds_of_roundsTo hx).2
  have hlow := (bounds_of_roundsTo hy).1
  -- The decimal would be the end that both intervals have.
  have hxend : candidate.value = x.highEnd * x.quarter := by linarith
  have hyend : candidate.value = y.lowEnd * y.quarter := by linarith
  have hends := hlt (even_of_roundsTo hx (.inr hxend)) (even_of_roundsTo hy (.inl hyend))
  linarith

/-- A decimal rounds to one magnitude only. -/
theorem eq_of_roundsTo {x y : Binary64} {candidate : Decimal}
    (hx : x.roundsTo candidate = true) (hy : y.roundsTo candidate = true) :
    x.significand = y.significand ∧ x.exponent = y.exponent := by
  have hxy : ¬x.Before y := fun hbefore => hbefore.not_roundsTo hx hy
  have hyx : ¬y.Before x := fun hbefore => hbefore.not_roundsTo hy hx
  unfold Before at hxy hyx
  omega

end Binary64

/-! ## Powers of ten around a fraction -/

namespace Decimal

theorem lt_tenTo_digitCount (n : Nat) : n < 10 ^ digitCount n :=
  (Nat.length_toDigits_le_iff (by decide) (List.length_pos_iff.mpr Nat.toDigits_ne_nil)).mp
    (Nat.le_refl _)

theorem tenTo_le_of_digitCount {n count : Nat} (hn : 0 < n) (hcount : digitCount n = count + 1) :
    10 ^ count ≤ n := by
  rcases Nat.eq_zero_or_pos count with rfl | hpos
  · exact hn
  · by_contra hlt
    have hle : digitCount n ≤ count :=
      (Nat.length_toDigits_le_iff (by decide) hpos).mpr (Nat.lt_of_not_le hlt)
    omega

/-- The leading power is not above the fraction. -/
theorem zpow_leadingPower_le {num : Nat} (hnum : 0 < num) (den : Nat) :
    (10 : ℚ) ^ leadingPower num den * den ≤ num := by
  simp only [leadingPower]
  split
  next =>
    -- The counts of digits alone give the power below the guess.
    obtain ⟨count, hcount⟩ := Nat.exists_eq_add_one_of_ne_zero
      (Nat.ne_of_gt (List.length_pos_iff.mpr (@Nat.toDigits_ne_nil num 10)))
    have hleast : ((10 : ℚ) ^ count) ≤ num := mod_cast tenTo_le_of_digitCount hnum hcount
    have hmost : (den : ℚ) ≤ 10 ^ digitCount den := mod_cast (lt_tenTo_digitCount den).le
    have hexponent : ((digitCount num : ℤ) - digitCount den - 1) + digitCount den = count := by
      rw [show digitCount num = count + 1 from hcount]
      omega
    calc (10 : ℚ) ^ ((digitCount num : ℤ) - digitCount den - 1) * den
      _ ≤ 10 ^ ((digitCount num : ℤ) - digitCount den - 1) * 10 ^ digitCount den := by gcongr
      _ = 10 ^ count := by
        rw [← zpow_natCast, ← zpow_natCast, ← zpow_add₀ (by norm_num), hexponent]
      _ ≤ num := hleast
  next hle =>
    generalize (digitCount num : ℤ) - digitCount den = power at hle ⊢
    have hcross : (den : ℚ) * 10 ^ power.toNat ≤ num * 10 ^ (-power).toNat := by
      exact_mod_cast Nat.le_of_not_lt hle
    rw [← zpow_mul_pow_neg (by norm_num)] at hcross
    have hpos : (0 : ℚ) < 10 ^ (-power).toNat := by positivity
    rw [← mul_le_mul_iff_left₀ hpos]
    linarith

end Decimal

namespace Binary64

/-- Rounding a quotient moves it by at most one half. -/
theorem roundQuotient_bounds (num : Nat) {den : Nat} (hden : 0 < den) :
    2 * num ≤ (2 * roundQuotient num den + 1) * den ∧
      2 * roundQuotient num den * den ≤ 2 * num + den := by
  have hquotient := Nat.div_add_mod num den
  have hremainder := Nat.mod_lt num hden
  simp only [roundQuotient]
  generalize num / den = quotient at hquotient ⊢
  generalize num % den = remainder at hquotient hremainder ⊢
  have hnum : num = quotient * den + remainder := by rw [← hquotient, Nat.mul_comm]
  split
  · constructor <;> nlinarith
  · split
    · constructor <;> nlinarith
    · split <;> constructor <;> nlinarith

/-- The nearest decimal with some count of digits. -/
def nearest (x : Binary64) (count : Nat) : Decimal :=
  let (num, den) := x.magnitude
  let exponent := Decimal.leadingPower num den - (count - 1 : Nat)
  ⟨roundQuotient (num * tenTo (-exponent).toNat) (den * tenTo exponent.toNat), exponent⟩

theorem nearest_mem_neighbours (x : Binary64) (count : Nat) :
    x.nearest count ∈ x.neighbours count := by
  simp only [nearest, neighbours]
  generalize x.magnitude.1 * tenTo _ = n
  generalize x.magnitude.2 * tenTo _ = d
  have hcases : roundQuotient n d = n / d ∨ roundQuotient n d = n / d + 1 := by
    simp only [roundQuotient]
    grind
  rcases hcases with hbelow | habove
  · rw [if_pos hbelow, hbelow]
    exact List.mem_cons_self
  · rw [if_neg (by omega), habove]
    exact List.mem_cons_self

theorem magnitude_fst (x : Binary64) : (x.magnitude.1 : ℚ) = x.value * x.magnitude.2 :=
  scaled_fst _ _

theorem magnitude_fst_pos {x : Binary64} (hx : 0 < x.significand) : 0 < x.magnitude.1 :=
  Nat.mul_pos hx (twoTo_pos _)

theorem magnitude_snd_pos (x : Binary64) : 0 < x.magnitude.2 := scaled_snd_pos _ _

section Nearest

variable (x : Binary64) (count : Nat)

/-- The nearest decimal is at most half of its last place away. -/
theorem nearest_bounds :
    2 * x.value ≤ 2 * (x.nearest count).value + 10 ^ (x.nearest count).exponent ∧
      2 * (x.nearest count).value ≤ 2 * x.value + 10 ^ (x.nearest count).exponent := by
  have hmagnitude := x.magnitude_fst
  have hmagnitudePos := x.magnitude_snd_pos
  simp only [nearest, Decimal.value]
  generalize Decimal.leadingPower _ _ - _ = exponent
  have hden : 0 < x.magnitude.2 * tenTo exponent.toNat := Nat.mul_pos hmagnitudePos (tenTo_pos _)
  obtain ⟨hle, hge⟩ := roundQuotient_bounds (x.magnitude.1 * tenTo (-exponent).toNat) hden
  have hquotient : ((x.magnitude.1 * tenTo (-exponent).toNat : Nat) : ℚ) * 10 ^ exponent =
      x.value * (x.magnitude.2 * tenTo exponent.toNat : Nat) := by
    push_cast
    rw [hmagnitude, cast_tenTo, cast_tenTo, ← zpow_mul_pow_neg (by norm_num) exponent]
    ring
  have hdenPos : (0 : ℚ) < (x.magnitude.2 * tenTo exponent.toNat : Nat) := mod_cast hden
  have hplace : (0 : ℚ) < 10 ^ exponent := by positivity
  generalize x.magnitude.1 * tenTo (-exponent).toNat = num at hle hge hquotient ⊢
  generalize x.magnitude.2 * tenTo exponent.toNat = den at hle hge hquotient hdenPos ⊢
  generalize roundQuotient num den = rounded at hle hge ⊢
  have hle' : (2 * num : ℚ) ≤ (2 * rounded + 1) * den := mod_cast hle
  have hge' : (2 * rounded * den : ℚ) ≤ 2 * num + den := mod_cast hge
  constructor
  · rw [← mul_le_mul_iff_left₀ hdenPos]
    calc 2 * x.value * den
      _ = 2 * num * 10 ^ exponent := by rw [mul_assoc, ← hquotient, mul_assoc]
      _ ≤ (2 * rounded + 1) * den * 10 ^ exponent := by gcongr
      _ = _ := by ring
  · rw [← mul_le_mul_iff_left₀ hdenPos]
    calc 2 * (rounded * 10 ^ exponent) * (den : ℚ)
      _ = 2 * rounded * den * 10 ^ exponent := by ring
      _ ≤ (2 * num + den) * 10 ^ exponent := by gcongr
      _ = _ := by rw [add_mul, mul_assoc, hquotient]; ring

variable {x} (hx : 0 < x.significand)
include hx

/-- The last place of the nearest decimal is small before the number. -/
theorem zpow_nearest_le : 10 ^ (count - 1) * 10 ^ (x.nearest count).exponent ≤ x.value := by
  have hden : (0 : ℚ) < x.magnitude.2 := mod_cast x.magnitude_snd_pos
  have hleading := Decimal.zpow_leadingPower_le (magnitude_fst_pos hx) x.magnitude.2
  rw [magnitude_fst, mul_le_mul_iff_left₀ hden] at hleading
  refine le_trans (le_of_eq ?_) hleading
  rw [nearest, ← zpow_natCast, ← zpow_add₀ (by norm_num)]
  congr 1
  exact add_sub_cancel _ _

/-- A decimal with seventeen digits is nearer to a number than the ends of its interval. -/
theorem roundsTo_nearest : x.roundsTo (x.nearest maxDigits) = true := by
  obtain ⟨hle, hge⟩ := x.nearest_bounds maxDigits
  have hplace : 10 ^ 16 * 10 ^ (x.nearest maxDigits).exponent ≤ x.value :=
    zpow_nearest_le maxDigits hx
  obtain ⟨hlow, hhigh⟩ : 10 ^ 16 * x.lowEnd + 2 * x.significand < 10 ^ 16 * (4 * x.significand) ∧
      10 ^ 16 * (4 * x.significand) + 2 * x.significand < 10 ^ 16 * x.highEnd := by
    have hmost : x.significand < 2 ^ 53 := x.canonical.1
    have hhalf : twoTo (precision - 1) = 2 ^ 52 := rfl
    unfold lowEnd highEnd
    constructor
    · split <;> omega
    · omega
  have hlow' : (10 ^ 16 * x.lowEnd + 2 * x.significand : ℚ) * x.quarter <
      10 ^ 16 * (4 * x.significand) * x.quarter :=
    mul_lt_mul_of_pos_right (mod_cast hlow) x.quarter_pos
  have hhigh' : (10 ^ 16 * (4 * x.significand) + 2 * x.significand : ℚ) * x.quarter <
      10 ^ 16 * x.highEnd * x.quarter :=
    mul_lt_mul_of_pos_right (mod_cast hhigh) x.quarter_pos
  rw [value_eq_quarters] at hle hge hplace
  have hinside : x.lowEnd * x.quarter < (x.nearest maxDigits).value ∧
      (x.nearest maxDigits).value < x.highEnd * x.quarter := by
    constructor <;> linarith
  rw [roundsTo_iff]
  split
  next => exact ⟨hinside.1.le, hinside.2.le⟩
  next => exact hinside

end Nearest

/-! ## The shortest decimal -/

/-- Whether a decimal rounds to a number depends on its value only. -/
theorem roundsTo_congr (x : Binary64) {candidate other : Decimal}
    (hvalue : candidate.value = other.value) : x.roundsTo candidate = x.roundsTo other := by
  rw [Bool.eq_iff_iff, roundsTo_iff, roundsTo_iff, hvalue]

end Binary64

namespace Decimal

theorem exists_eq_append_zeros (chars : List Char) :
    ∃ front, chars =
      front ++ List.replicate (chars.reverse.takeWhile (· = '0')).length '0' := by
  have hzeros : chars.reverse.takeWhile (· = '0') =
      List.replicate (chars.reverse.takeWhile (· = '0')).length '0' := by
    rw [List.eq_replicate_length]
    intro c hc
    simpa using List.mem_takeWhile_imp hc
  refine ⟨(chars.reverse.dropWhile (· = '0')).reverse, ?_⟩
  rw [← List.reverse_replicate, ← hzeros, ← List.reverse_append, List.takeWhile_append_dropWhile,
    List.reverse_reverse]

/-- Zeros at the end of the digits go over into the exponent. -/
theorem value_stripZeros (x : Decimal) : x.stripZeros.value = x.value := by
  obtain ⟨front, hfront⟩ := exists_eq_append_zeros (Nat.toDigits 10 x.digits)
  simp only [stripZeros, value]
  generalize ((Nat.toDigits 10 x.digits).reverse.takeWhile (· = '0')).length = zeros at hfront ⊢
  have hdigits : x.digits = tenTo zeros * Nat.ofDigitChars 10 front 0 := by
    change x.digits = 10 ^ zeros * _
    rw [← Nat.ofDigitChars_replicate_zero, ← Nat.ofDigitChars_append, ← hfront,
      Nat.ofDigitChars_ten_toDigits]
  rw [hdigits, Nat.mul_div_cancel_left _ (tenTo_pos zeros), Nat.cast_mul, cast_tenTo,
    zpow_add₀ (by norm_num), zpow_natCast]
  ring

end Decimal

namespace Binary64

/-- The shortest decimal of a positive number rounds to it. -/
theorem roundsTo_shortest {x : Binary64} (hx : 0 < x.significand) :
    x.roundsTo x.shortest = true := by
  rw [shortest, roundsTo_congr x (Decimal.value_stripZeros _)]
  cases hfound : ((List.range maxDigits).map (· + 1)).findSome? fun count =>
      (x.neighbours count).find? x.roundsTo with
  | some candidate =>
      obtain ⟨count, -, hcandidate⟩ := List.exists_of_findSome?_eq_some hfound
      exact List.find?_some hcandidate
  | none =>
      -- The search does not get past seventeen digits.
      have hnone := List.findSome?_eq_none_iff.mp hfound maxDigits (by decide)
      have hnearest := List.find?_eq_none.mp hnone _ (x.nearest_mem_neighbours maxDigits)
      exact absurd (roundsTo_nearest hx) hnearest

/-- The number nearest to one tenth has one tenth as its shortest decimal. -/
example : (Binary64.mk false 7205759403792794 (-56) (by decide)).shortest = ⟨1, -1⟩ := by
  decide +kernel

/-- Positive numbers whose shortest decimals have the same value have the same magnitude. -/
theorem eq_of_value_shortest {x y : Binary64} (hx : 0 < x.significand) (hy : 0 < y.significand)
    (hvalue : x.shortest.value = y.shortest.value) :
    x.significand = y.significand ∧ x.exponent = y.exponent := by
  apply eq_of_roundsTo (roundsTo_shortest hx)
  rw [roundsTo_congr y hvalue]
  exact roundsTo_shortest hy

theorem value_shortest_pos {x : Binary64} (hx : 0 < x.significand) : 0 < x.shortest.value := by
  have hlow : 0 < x.lowEnd := by
    unfold lowEnd
    split <;> omega
  calc (0 : ℚ)
    _ < x.lowEnd * x.quarter := mul_pos (mod_cast hlow) x.quarter_pos
    _ ≤ x.shortest.value := (bounds_of_roundsTo (roundsTo_shortest hx)).1

end Binary64

end ResourceWatch
