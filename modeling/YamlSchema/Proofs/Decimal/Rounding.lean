import Mathlib.Algebra.Order.Field.Power
import Mathlib.Algebra.Order.Floor.Semifield
import Mathlib.Data.Int.Log
import Mathlib.Data.Rat.Floor
import Mathlib.Tactic.FieldSimp
import Mathlib.Tactic.Linarith
import Mathlib.Tactic.Positivity
import YamlSchema.Decimal.Double

/-!
# Rounding depends on the value alone

`Double.ofRatio` and `Double.ofDecimal` round the rational number that they are given, however it is written
(`ofRatio_eq_rounded`, `ofDecimal_eq_rounded`): its binary logarithm says what the exponent is, and the mantissa is the
nearest natural number.  A number that falls short of a double by less than a small part of it is rounded to that double
(`IsProper.rounded_eq`).
-/

namespace YamlSchema.Double

/-- A double has a mantissa of 53 bits and an exponent in its range, the least one unless the mantissa has all bits. -/
structure IsProper (x : Double) : Prop where
  mantissa_lt : x.mantissa < 2 ^ 53
  le_exponent : minExponent ≤ x.exponent
  exponent_le : x.exponent ≤ maxExponent
  normal : x.exponent = minExponent ∨ 2 ^ 52 ≤ x.mantissa

/-- The value without its sign. -/
def magnitude (x : Double) : ℚ := x.mantissa * 2 ^ x.exponent

/-- The nearest natural number, of two that are as near the even one. -/
def nearest (q : ℚ) : ℕ :=
  if 2 * (q - ⌊q⌋₊) < 1 then ⌊q⌋₊
  else if 1 < 2 * (q - ⌊q⌋₊) then ⌊q⌋₊ + 1
  else if ⌊q⌋₊ % 2 = 0 then ⌊q⌋₊ else ⌊q⌋₊ + 1

/-- The exponent of the double to which a number is rounded, unless its mantissa overflows. -/
def exponentOf (q : ℚ) : ℤ := max (Int.log 2 q - 52) minExponent

/-- The double nearest to a number, if it is not beyond the largest one. -/
def rounded (negative : Bool) (q : ℚ) : Option Double :=
  let m := nearest (q / 2 ^ exponentOf q)
  if m = 2 ^ 53 then
    if maxExponent < exponentOf q + 1 then none else some ⟨negative, 2 ^ 52, exponentOf q + 1⟩
  else if maxExponent < exponentOf q then none else some ⟨negative, m, exponentOf q⟩

/-! ### The definitions in terms of values -/

theorem roundedQuotient_eq_nearest (n : ℕ) {d : ℕ} (hd : 0 < d) : roundedQuotient n d = nearest (n / d) := by
  have hd' : (0 : ℚ) < d := by exact_mod_cast hd
  have hfloor : ⌊(n : ℚ) / d⌋₊ = n / d := Nat.floor_div_eq_div n d
  have hrest : 2 * ((n : ℚ) / d - (n / d : ℕ)) = ((2 * (n % d) : ℕ) : ℚ) / d := by
    have hsum : (d : ℚ) * (n / d : ℕ) + (n % d : ℕ) = n := by exact_mod_cast Nat.div_add_mod n d
    rw [eq_div_iff hd'.ne', ← hsum]
    push_cast
    field_simp
    ring
  have hlow : 2 * ((n : ℚ) / d - (n / d : ℕ)) < 1 ↔ 2 * (n % d) < d := by
    rw [hrest, div_lt_one hd']
    exact Nat.cast_lt
  have hhigh : 1 < 2 * ((n : ℚ) / d - (n / d : ℕ)) ↔ d < 2 * (n % d) := by
    rw [hrest, one_lt_div hd']
    exact Nat.cast_lt
  simp only [roundedQuotient, nearest, hfloor, hlow, hhigh]

theorem scaled_spec (num : ℕ) {den : ℕ} (hden : 0 < den) (e : ℤ) :
    0 < (scaled num den e).2 ∧ ((scaled num den e).1 : ℚ) / (scaled num den e).2 = num / den / 2 ^ e := by
  rw [scaled]
  split
  · rename_i he
    obtain ⟨k, rfl⟩ := Int.eq_ofNat_of_zero_le he
    refine ⟨Nat.mul_pos hden (Nat.pow_pos (by decide)), ?_⟩
    simp [div_div]
  · rename_i he
    obtain ⟨k, hk⟩ := Int.eq_ofNat_of_zero_le (show 0 ≤ -e by omega)
    refine ⟨hden, ?_⟩
    rw [hk, show e = -(k : ℤ) by omega]
    simp [div_eq_mul_inv]
    ring

theorem zpow_le_iff_le_log {q : ℚ} (hq : 0 < q) (k : ℤ) : (2 : ℚ) ^ k ≤ q ↔ k ≤ Int.log 2 q :=
  Int.zpow_le_iff_le_log (by decide) hq

theorem lt_zpow_iff_log_lt {q : ℚ} (hq : 0 < q) (k : ℤ) : q < (2 : ℚ) ^ k ↔ Int.log 2 q < k :=
  Int.lt_zpow_iff_log_lt (by decide) hq

/-- A positive number lies between the powers of two that its length says. -/
theorem log2_bounds {n : ℕ} (hn : n ≠ 0) :
    (2 : ℚ) ^ (n.log2 : ℤ) ≤ n ∧ (n : ℚ) < 2 ^ ((n.log2 : ℤ) + 1) := by
  constructor
  · rw [zpow_natCast]
    exact_mod_cast Nat.log2_self_le hn
  · rw [← Nat.cast_succ, zpow_natCast]
    exact_mod_cast Nat.lt_log2_self

/-- The logarithm of a fraction differs by at most one from what the lengths of its parts say. -/
theorem log_div_bounds {num den : ℕ} (hnum : num ≠ 0) (hden : 0 < den) :
    (num.log2 : ℤ) - den.log2 - 1 ≤ Int.log 2 ((num : ℚ) / den) ∧
      Int.log 2 ((num : ℚ) / den) ≤ (num.log2 : ℤ) - den.log2 := by
  have hden' : (0 : ℚ) < den := by exact_mod_cast hden
  have hq : (0 : ℚ) < num / den := div_pos (by exact_mod_cast Nat.pos_of_ne_zero hnum) hden'
  obtain ⟨hnumLow, hnumHigh⟩ := log2_bounds hnum
  obtain ⟨hdenLow, hdenHigh⟩ := log2_bounds hden.ne'
  constructor
  · rw [← zpow_le_iff_le_log hq, le_div_iff₀ hden']
    calc (2 : ℚ) ^ ((num.log2 : ℤ) - den.log2 - 1) * den
        ≤ 2 ^ ((num.log2 : ℤ) - den.log2 - 1) * 2 ^ ((den.log2 : ℤ) + 1) := by gcongr
      _ = 2 ^ (num.log2 : ℤ) := by rw [← zpow_add₀ two_ne_zero]; congr 1; ring
      _ ≤ num := hnumLow
  · rw [← Int.lt_add_one_iff, ← lt_zpow_iff_log_lt hq, div_lt_iff₀ hden']
    calc (num : ℚ) < 2 ^ ((num.log2 : ℤ) + 1) := hnumHigh
      _ = 2 ^ ((num.log2 : ℤ) - den.log2 + 1) * 2 ^ (den.log2 : ℤ) := by rw [← zpow_add₀ two_ne_zero]; congr 1; ring
      _ ≤ 2 ^ ((num.log2 : ℤ) - den.log2 + 1) * den := by gcongr

/-- The exponent at which the mantissa has all its bits is found from the lengths of the parts and one comparison. -/
theorem fitted_eq {num den : ℕ} (hnum : num ≠ 0) (hden : 0 < den) {guess : ℤ}
    (hguess : guess = (num.log2 : ℤ) - den.log2 - 52) :
    (if (scaled num den guess).1 / (scaled num den guess).2 < 2 ^ 52 then guess - 1 else guess) =
      Int.log 2 ((num : ℚ) / den) - 52 := by
  have hq : (0 : ℚ) < num / den := div_pos (by exact_mod_cast Nat.pos_of_ne_zero hnum) (by exact_mod_cast hden)
  have hpos : (0 : ℚ) < 2 ^ guess := by positivity
  -- the guess is one too high just if the quotient has less than 53 bits
  have hless : (scaled num den guess).1 / (scaled num den guess).2 < 2 ^ 52 ↔
      Int.log 2 ((num : ℚ) / den) < guess + 52 := by
    rw [← Nat.floor_div_eq_div (K := ℚ), Nat.floor_lt' (by decide), (scaled_spec num hden guess).2, div_lt_iff₀ hpos,
      ← lt_zpow_iff_log_lt hq, zpow_add₀ two_ne_zero, mul_comm]
    norm_cast
  obtain ⟨hlow, hhigh⟩ := log_div_bounds hnum hden
  split
  · rename_i h
    have := hless.1 h
    omega
  · rename_i h
    have := mt hless.2 h
    omega

theorem ofRatio_eq_rounded (negative : Bool) {num den : ℕ} (hnum : num ≠ 0) (hden : 0 < den) :
    ofRatio negative num den = rounded negative (num / den) := by
  have hfitted := fitted_eq hnum hden rfl
  have hmantissa : ∀ e, roundedQuotient (scaled num den e).1 (scaled num den e).2 = nearest ((num : ℚ) / den / 2 ^ e) :=
    fun e => by rw [roundedQuotient_eq_nearest _ (scaled_spec num hden e).1, (scaled_spec num hden e).2]
  have hpow : ∀ k, Nat.pow 2 k = 2 ^ k := fun _ => rfl
  have hexponent : max (Int.log 2 ((num : ℚ) / den) - 52) minExponent = exponentOf (num / den) := rfl
  rw [ofRatio, if_neg hnum]
  simp only [hpow, hfitted, hmantissa, hexponent, rounded]
  -- both sides carry a mantissa that overflows into the exponent
  by_cases hfull : nearest ((num : ℚ) / den / 2 ^ exponentOf (num / den)) = 2 ^ 53
  · simp only [if_pos hfull]
  · simp only [if_neg hfull]

/-- A decimal is rounded as the number that it is, unless it is far outside the range of doubles. -/
theorem ofDecimal_eq_rounded (negative : Bool) {digits : ℕ} (hdigits : digits ≠ 0) {power : ℤ}
    (hlow : -400 ≤ ((Nat.toDigits 10 digits).length : ℤ) + power)
    (hhigh : ((Nat.toDigits 10 digits).length : ℤ) + power ≤ 400) :
    ofDecimal negative digits power = rounded negative (digits * 10 ^ power) := by
  have hpow : ∀ k, Nat.pow 10 k = 10 ^ k := fun _ => rfl
  rw [ofDecimal, if_neg hdigits]
  simp only [if_neg (Int.not_lt.2 hhigh), if_neg (Int.not_lt.2 hlow), hpow]
  split
  · rename_i hpower
    obtain ⟨k, rfl⟩ := Int.eq_ofNat_of_zero_le hpower
    rw [ofRatio_eq_rounded _ (Nat.mul_ne_zero hdigits (by positivity)) Nat.one_pos]
    simp
  · rename_i hpower
    obtain ⟨k, hk⟩ := Int.eq_ofNat_of_zero_le (show 0 ≤ -power by omega)
    rw [hk, show power = -(k : ℤ) by omega, ofRatio_eq_rounded _ hdigits (by positivity)]
    simp [div_eq_mul_inv]

theorem size_of_ofDecimal {negative : Bool} {digits : ℕ} {power : ℤ} {x : Double}
    (h : ofDecimal negative digits power = some x) (hx : x.mantissa ≠ 0) :
    digits ≠ 0 ∧ -400 ≤ ((Nat.toDigits 10 digits).length : ℤ) + power ∧
      ((Nat.toDigits 10 digits).length : ℤ) + power ≤ 400 := by
  have hzero : some (zero negative) ≠ some x := by
    rintro ⟨⟩
    exact hx rfl
  rw [ofDecimal] at h
  split at h
  · exact absurd h hzero
  · rename_i hdigits
    dsimp only at h
    split at h
    · cases h
    · split at h
      · exact absurd h hzero
      · exact ⟨hdigits, by omega, by omega⟩

/-! ### Numbers that are rounded to a double -/

theorem nearest_eq_of_lt {q : ℚ} {j : ℕ} (hlow : j + 1 / 2 < q) (hhigh : q ≤ j + 1) : nearest q = j + 1 := by
  rcases eq_or_lt_of_le hhigh with rfl | hless
  · rw [← Nat.cast_succ, nearest, Nat.floor_natCast, if_pos (by norm_num)]
  · have hfloor : ⌊q⌋₊ = j := (Nat.floor_eq_iff (by linarith [j.cast_nonneg (α := ℚ)])).2 ⟨by linarith, hless⟩
    rw [nearest, hfloor, if_neg (by linarith), if_pos (by linarith)]

/-- `Short r m` says that a number falls short of a natural number by less than a small part of it. -/
structure Short (r : ℚ) (m : ℕ) : Prop where
  ne_zero : m ≠ 0
  le : r ≤ m
  rest : (m - r) * 2 ^ 55 < m

variable {r : ℚ} {m : ℕ}

theorem Short.double (h : Short r m) : Short (2 * r) (2 * m) where
  ne_zero := Nat.mul_ne_zero two_ne_zero h.ne_zero
  le := by
    push_cast
    linarith [h.le]
  rest := by
    push_cast
    linarith [h.rest]

theorem Short.pos (h : Short r m) : 0 < r := by
  have hone : (1 : ℚ) ≤ m := by exact_mod_cast Nat.one_le_iff_ne_zero.2 h.ne_zero
  linarith [h.rest]

theorem Short.nearest_eq (h : Short r m) (hm : m ≤ 2 ^ 53) : nearest r = m := by
  obtain ⟨j, rfl⟩ := Nat.exists_eq_succ_of_ne_zero h.ne_zero
  have hbound : ((j.succ : ℕ) : ℚ) ≤ 2 ^ 53 := by exact_mod_cast hm
  have hle := h.le
  have hrest := h.rest
  push_cast at hbound hle hrest
  exact nearest_eq_of_lt (by linarith) hle

namespace IsProper

variable {x : Double}

/-- There is one zero of either sign. -/
theorem eq_zero (hx : x.IsProper) (h : x.mantissa = 0) : x = zero x.negative := by
  have hexponent : x.exponent = minExponent := hx.normal.resolve_right (by omega)
  rw [zero, ← h, ← hexponent]

theorem magnitude_lt (hx : x.IsProper) : x.magnitude < 2 ^ (x.exponent + 53) := by
  have hmantissa : (x.mantissa : ℚ) < 2 ^ (53 : ℤ) := by exact_mod_cast hx.mantissa_lt
  rw [magnitude, zpow_add₀ two_ne_zero, mul_comm]
  gcongr

/-- The exponent of a number just below a double is that of the double, or the one before it where the double is a
power of two. -/
theorem exponentOf_cases (hx : x.IsProper) (h : Short r x.mantissa) :
    exponentOf (r * 2 ^ x.exponent) = x.exponent ∨
      x.mantissa = 2 ^ 52 ∧ exponentOf (r * 2 ^ x.exponent) = x.exponent - 1 := by
  have hpow : (0 : ℚ) < 2 ^ x.exponent := by positivity
  have hq : 0 < r * 2 ^ x.exponent := mul_pos h.pos hpow
  have hhigh : Int.log 2 (r * 2 ^ x.exponent) < x.exponent + 53 :=
    (lt_zpow_iff_log_lt hq _).1 ((mul_le_mul_of_nonneg_right h.le hpow.le).trans_lt hx.magnitude_lt)
  have hmin := hx.le_exponent
  rw [exponentOf]
  by_cases hsame : max (Int.log 2 (r * 2 ^ x.exponent) - 52) minExponent = x.exponent
  · exact .inl hsame
  · -- the logarithm is below that of the double, so the number is just below a power of two
    have hfull : 2 ^ 52 ≤ x.mantissa := hx.normal.resolve_left (by omega)
    have hless : r < 2 ^ 52 := by
      have hlog : r * 2 ^ x.exponent < 2 ^ (52 + x.exponent) := (lt_zpow_iff_log_lt hq _).2 (by omega)
      rw [zpow_add₀ two_ne_zero] at hlog
      exact_mod_cast lt_of_mul_lt_mul_right hlog hpow.le
    have hmantissa : x.mantissa = 2 ^ 52 := by
      have hbound : (x.mantissa : ℚ) < 2 ^ 53 := by exact_mod_cast hx.mantissa_lt
      have hnext : (x.mantissa : ℚ) < 2 ^ 52 + 1 := by linarith [h.rest]
      have hnext : x.mantissa < 2 ^ 52 + 1 := by exact_mod_cast hnext
      omega
    have hhalf : (2 : ℚ) ^ 51 ≤ r := by
      have hrest := h.rest
      rw [hmantissa] at hrest
      push_cast at hrest
      linarith
    have hlow : x.exponent + 51 ≤ Int.log 2 (r * 2 ^ x.exponent) := by
      rw [← zpow_le_iff_le_log hq, zpow_add₀ two_ne_zero, mul_comm]
      gcongr
      exact_mod_cast hhalf
    exact .inr ⟨hmantissa, by omega⟩

/-- A number that falls short of a double by less than a small part of it is rounded to that double. -/
theorem rounded_eq (hx : x.IsProper) (h : Short r x.mantissa) : rounded x.negative (r * 2 ^ x.exponent) = some x := by
  have hpow : (2 : ℚ) ^ x.exponent ≠ 0 := by positivity
  have hmax := hx.exponent_le
  rcases hx.exponentOf_cases h with hsame | ⟨hmantissa, hbelow⟩
  · have hnearest := h.nearest_eq hx.mantissa_lt.le
    rw [rounded]
    simp only [hsame, mul_div_cancel_right₀ _ hpow, hnearest, if_neg hx.mantissa_lt.ne, if_neg hmax.not_gt]
  · -- the mantissa overflows and becomes that of the power of two
    have hnearest := h.double.nearest_eq (by omega)
    have hscaled : r * 2 ^ x.exponent / 2 ^ (x.exponent - 1) = 2 * r := by
      rw [zpow_sub_one₀ two_ne_zero]
      field_simp
    rw [rounded]
    simp only [hbelow, hscaled, hnearest, hmantissa, if_pos (show 2 * 2 ^ 52 = 2 ^ 53 from rfl), Int.sub_add_cancel,
      if_neg hmax.not_gt]
    rw [← hmantissa]

end IsProper

end YamlSchema.Double
