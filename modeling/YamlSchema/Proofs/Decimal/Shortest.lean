import YamlSchema.Decimal.Shortest
import YamlSchema.Proofs.Decimal.Rounding

/-!
# The shortest decimal reads back

`Decimal.shortest` tries finer and finer grids.  On the finest one a double is at least `10 ^ 17` steps, so the step
below it is rounded to it (`Decimal.reads_gridFloor`), and the decimal that is chosen has a value that is rounded to the
double (`Decimal.rounded_shortest`).  The sign and the value of the shortest decimal thus say which double it is
(`Decimal.eq_of_value_shortest`).
-/

namespace YamlSchema

/-! ### The magnitude of a double -/

namespace Double

variable {x : Double}

theorem ratio_spec (x : Double) : 0 < x.ratio.2 ∧ (x.ratio.1 : ℚ) / x.ratio.2 = x.magnitude := by
  rw [ratio, magnitude]
  split
  · rename_i he
    obtain ⟨k, hk⟩ := Int.eq_ofNat_of_zero_le he
    simp [hk]
  · rename_i he
    obtain ⟨k, hk⟩ := Int.eq_ofNat_of_zero_le (show 0 ≤ -x.exponent by omega)
    rw [hk, show x.exponent = -(k : ℤ) by omega]
    refine ⟨Nat.pow_pos (by decide), ?_⟩
    simp [div_eq_mul_inv]

theorem IsProper.magnitude_lt_pow (hx : x.IsProper) : x.magnitude < 10 ^ (400 : ℤ) := by
  have hpow : (2 : ℕ) ^ 1024 ≤ 10 ^ 400 := by decide +kernel
  calc x.magnitude < 2 ^ (x.exponent + 53) := hx.magnitude_lt
    _ ≤ 2 ^ (1024 : ℤ) := zpow_le_zpow_right₀ one_le_two (by have := hx.exponent_le; rw [maxExponent] at this; omega)
    _ ≤ 10 ^ (400 : ℤ) := by exact_mod_cast hpow

theorem IsProper.pow_le_magnitude (hx : x.IsProper) (hzero : x.mantissa ≠ 0) : 10 ^ (-325 : ℤ) ≤ x.magnitude := by
  have hpow : (2 : ℕ) ^ 1074 ≤ 10 ^ 325 := by decide +kernel
  have hone : (1 : ℚ) ≤ x.mantissa := by exact_mod_cast Nat.one_le_iff_ne_zero.2 hzero
  calc (10 : ℚ) ^ (-325 : ℤ) ≤ 2 ^ (-1074 : ℤ) := by
        rw [zpow_neg, zpow_neg]
        exact inv_anti₀ (by positivity) (by exact_mod_cast hpow)
    _ ≤ 2 ^ x.exponent := zpow_le_zpow_right₀ one_le_two hx.le_exponent
    _ ≤ x.magnitude := le_mul_of_one_le_left (by positivity) hone

end Double

namespace Decimal

/-- The number that a decimal is. -/
def value (d : Decimal) : ℚ := d.digits * 10 ^ d.power

/-! ### Grids -/

theorem gridFloor_eq_floor (num den : ℕ) (p : ℤ) : gridFloor num den p = ⌊(num : ℚ) / den / 10 ^ p⌋₊ := by
  rw [gridFloor]
  split
  · rename_i hp
    obtain ⟨k, rfl⟩ := Int.eq_ofNat_of_zero_le hp
    rw [← Nat.floor_div_eq_div (K := ℚ)]
    simp [div_div]
  · rename_i hp
    obtain ⟨k, hk⟩ := Int.eq_ofNat_of_zero_le (show 0 ≤ -p by omega)
    rw [← Nat.floor_div_eq_div (K := ℚ), hk, show p = -(k : ℤ) by omega]
    congr 1
    simp [div_eq_mul_inv]
    ring

theorem gridFloor_bounds (num den : ℕ) (p : ℤ) :
    gridFloor num den p * 10 ^ p ≤ (num : ℚ) / den ∧ (num : ℚ) / den < (gridFloor num den p + 1) * 10 ^ p := by
  have hpow : (0 : ℚ) < 10 ^ p := by positivity
  rw [gridFloor_eq_floor, ← le_div_iff₀ hpow, ← div_lt_iff₀ hpow]
  exact ⟨Nat.floor_le (by positivity), Nat.lt_floor_add_one _⟩

theorem pow_magnitude_le {num den : ℕ} (fuel : ℕ) {p : ℤ} (h : 10 ^ (p - 1) ≤ (num : ℚ) / den) :
    10 ^ (magnitude num den fuel p - 1) ≤ (num : ℚ) / den := by
  -- the bound holds of every power that is tried, so it does not matter whether the fuel suffices
  induction fuel generalizing p with
  | zero => exact h
  | succ fuel ih =>
    rw [magnitude]
    split
    · exact h
    · rename_i hfloor
      refine ih ?_
      have hone : (1 : ℚ) ≤ gridFloor num den p := by exact_mod_cast Nat.one_le_iff_ne_zero.2 hfloor
      rw [Int.add_sub_cancel]
      exact (le_mul_of_one_le_left (by positivity) hone).trans (gridFloor_bounds num den p).1

/-- Whether a decimal is read as a double. -/
def Reads (x : Double) (d : Decimal) : Prop := Double.ofDecimal x.negative d.digits d.power = some x

section Shortest

variable {x : Double}

theorem reads_of_onGrid? {p : ℤ} {d : Decimal} (h : onGrid? x p = some d) : Reads x d := by
  have hreads : ∀ n ∈ [gridFloor x.ratio.1 x.ratio.2 p, gridFloor x.ratio.1 x.ratio.2 p + 1].filter
      (fun n => Double.ofDecimal x.negative n p = some x), Reads x ⟨n, p⟩ := by
    intro n hn
    have hread := (List.mem_filter.1 hn).2
    rw [decide_eq_true_eq] at hread
    exact hread
  rw [onGrid?] at h
  dsimp only at h
  split at h
  · cases h
  · rename_i n hlist
    cases h
    exact hreads n (by rw [hlist]; exact List.mem_cons_self)
  · rename_i a b more hlist
    split at h
    · cases h
      exact hreads a (by rw [hlist]; exact List.mem_cons_self)
    · cases h
      exact hreads b (by rw [hlist]; exact List.mem_cons_of_mem _ List.mem_cons_self)

theorem onGrid?_ne_none {p : ℤ} (h : Reads x ⟨gridFloor x.ratio.1 x.ratio.2 p, p⟩) : onGrid? x p ≠ none := by
  intro hnone
  rw [onGrid?] at hnone
  dsimp only at hnone
  split at hnone
  · rename_i hlist
    rw [List.filter_eq_nil_iff] at hlist
    exact hlist _ List.mem_cons_self (decide_eq_true h)
  · cases hnone
  · split at hnone <;> cases hnone

/-- A grid on which the double is found is reached. -/
theorem reads_firstGrid {top : ℤ} (fuel : ℕ) (p : ℤ)
    (h : Reads x ⟨gridFloor x.ratio.1 x.ratio.2 (p - fuel), p - fuel⟩) : Reads x (firstGrid x top fuel p) := by
  induction fuel generalizing p with
  | zero =>
    rw [Int.natCast_zero, Int.sub_zero] at h
    obtain ⟨d, hd⟩ := Option.ne_none_iff_exists'.1 (onGrid?_ne_none h)
    rw [firstGrid, hd]
    exact reads_of_onGrid? hd
  | succ fuel ih =>
    rw [firstGrid]
    split
    · rename_i d hd
      exact reads_of_onGrid? hd
    · exact ih (p - 1) (by rwa [show p - 1 - (fuel : ℤ) = p - (fuel + 1 : ℕ) by push_cast; omega])

theorem length_toDigits_bounds {n : ℕ} (hn : n ≠ 0) :
    10 ^ ((Nat.toDigits 10 n).length - 1) ≤ n ∧ n < 10 ^ (Nat.toDigits 10 n).length := by
  have hpos : 0 < (Nat.toDigits 10 n).length := List.length_pos_iff.2 Nat.toDigits_ne_nil
  refine ⟨?_, (Nat.length_toDigits_le_iff (by decide) hpos).1 le_rfl⟩
  by_cases hone : (Nat.toDigits 10 n).length = 1
  · rw [hone]
    exact Nat.one_le_iff_ne_zero.2 hn
  · by_contra hless
    have := (Nat.length_toDigits_le_iff (by decide) (show 0 < (Nat.toDigits 10 n).length - 1 by omega)).2 (not_le.1 hless)
    omega

/-- The step below a double is rounded to it on a grid on which the double is at least `10 ^ 17` steps. -/
theorem reads_gridFloor (hx : x.IsProper) (hzero : x.mantissa ≠ 0) {p : ℤ} (hp : 10 ^ (p + 17) ≤ x.magnitude) :
    Reads x ⟨gridFloor x.ratio.1 x.ratio.2 p, p⟩ := by
  have hten : (0 : ℚ) < 10 ^ p := by positivity
  have htwo : (0 : ℚ) < 2 ^ x.exponent := by positivity
  obtain ⟨hlow, hhigh⟩ := gridFloor_bounds x.ratio.1 x.ratio.2 p
  rw [x.ratio_spec.2] at hlow hhigh
  generalize gridFloor x.ratio.1 x.ratio.2 p = n at hlow hhigh ⊢
  rw [zpow_add₀ (by norm_num)] at hp
  have hn : n ≠ 0 := by
    rintro rfl
    push_cast at hhigh
    linarith
  -- the number of digits shows that the decimal is in the range that is rounded
  obtain ⟨hlengthLow, hlengthHigh⟩ := length_toDigits_bounds hn
  have hlengthLow' : (10 : ℚ) ^ ((Nat.toDigits 10 n).length - 1) ≤ n := by exact_mod_cast hlengthLow
  have hlengthHigh' : (n : ℚ) + 1 ≤ 10 ^ (Nat.toDigits 10 n).length := by exact_mod_cast hlengthHigh
  have hsizeLow : (-325 : ℤ) < (Nat.toDigits 10 n).length + p := by
    rw [← zpow_lt_zpow_iff_right₀ (show (1 : ℚ) < 10 by norm_num), zpow_add₀ (by norm_num), zpow_natCast]
    calc (10 : ℚ) ^ (-325 : ℤ) ≤ x.magnitude := hx.pow_le_magnitude hzero
      _ < (n + 1) * 10 ^ p := hhigh
      _ ≤ 10 ^ (Nat.toDigits 10 n).length * 10 ^ p := by gcongr
  have hsizeHigh : (((Nat.toDigits 10 n).length - 1 : ℕ) : ℤ) + p < 400 := by
    rw [← zpow_lt_zpow_iff_right₀ (show (1 : ℚ) < 10 by norm_num), zpow_add₀ (by norm_num), zpow_natCast]
    calc (10 : ℚ) ^ ((Nat.toDigits 10 n).length - 1) * 10 ^ p ≤ n * 10 ^ p := by gcongr
      _ ≤ x.magnitude := hlow
      _ < 10 ^ (400 : ℤ) := hx.magnitude_lt_pow
  -- a step is at most the 10 ^ 17th part of the double, and 2 ^ 55 < 10 ^ 17
  have hshort : Double.Short (n * 10 ^ p / 2 ^ x.exponent) x.mantissa := by
    refine ⟨hzero, (div_le_iff₀ htwo).2 hlow, ?_⟩
    refine lt_of_mul_lt_mul_right ?_ htwo.le
    rw [mul_right_comm, sub_mul, div_mul_cancel₀ _ htwo.ne']
    change (x.magnitude - n * 10 ^ p) * 2 ^ 55 < x.magnitude
    norm_num at hp ⊢
    linarith
  change Double.ofDecimal x.negative n p = some x
  rw [Double.ofDecimal_eq_rounded _ hn (by omega) (by omega), ← hx.rounded_eq hshort, div_mul_cancel₀ _ htwo.ne']

/-! ### The value of the shortest decimal -/

theorem Reads.rounded {d : Decimal} (h : Reads x d) (hzero : x.mantissa ≠ 0) :
    d.digits ≠ 0 ∧ Double.rounded x.negative d.value = some x := by
  obtain ⟨hdigits, hlow, hhigh⟩ := Double.size_of_ofDecimal h hzero
  rw [value, ← Double.ofDecimal_eq_rounded _ hdigits hlow hhigh]
  exact ⟨hdigits, h⟩

theorem stripZeros_spec (fuel : ℕ) {d : Decimal} (hd : d.digits ≠ 0) :
    (stripZeros fuel d).digits ≠ 0 ∧ (stripZeros fuel d).value = d.value := by
  induction fuel generalizing d with
  | zero => exact ⟨hd, rfl⟩
  | succ fuel ih =>
    rw [stripZeros]
    split
    · rename_i hten
      have hdigits : d.digits / 10 * 10 = d.digits := Nat.div_mul_cancel (Nat.dvd_of_mod_eq_zero hten.2)
      obtain ⟨hne, hvalue⟩ := ih (d := ⟨d.digits / 10, d.power + 1⟩) (by dsimp only; omega)
      refine ⟨hne, hvalue.trans ?_⟩
      have hdigits' : ((d.digits / 10 : ℕ) : ℚ) * 10 = d.digits := by exact_mod_cast hdigits
      rw [value, value, zpow_add_one₀ (by norm_num), ← hdigits']
      ring
    · exact ⟨hd, rfl⟩

theorem shortest_zero (hzero : x.mantissa = 0) : shortest x = ⟨0, 0⟩ := by
  rw [shortest, if_pos hzero]

/-- The value of the shortest decimal of a double other than zero is rounded to the double. -/
theorem rounded_shortest (hx : x.IsProper) (hzero : x.mantissa ≠ 0) :
    (shortest x).digits ≠ 0 ∧ Double.rounded x.negative (shortest x).value = some x := by
  have htop : 10 ^ (magnitude x.ratio.1 x.ratio.2 640 (-324) - 1) ≤ (x.ratio.1 : ℚ) / x.ratio.2 :=
    pow_magnitude_le 640 (by rw [x.ratio_spec.2]; exact hx.pow_le_magnitude hzero)
  rw [shortest, if_neg hzero]
  dsimp only
  generalize magnitude x.ratio.1 x.ratio.2 640 (-324) = top at htop ⊢
  rw [x.ratio_spec.2, show top - 1 = top - 1 - (17 : ℕ) + 17 by omega] at htop
  obtain ⟨hdigits, hrounded⟩ := (reads_firstGrid 17 _ (reads_gridFloor hx hzero htop)).rounded hzero
  obtain ⟨hstripped, hvalue⟩ := stripZeros_spec 20 hdigits
  exact ⟨hstripped, by rw [← hrounded, ← hvalue]⟩

theorem value_shortest_eq_zero_iff (hx : x.IsProper) : (shortest x).value = 0 ↔ x.mantissa = 0 := by
  constructor
  · intro hvalue
    by_contra hzero
    have hdigits : ((shortest x).digits : ℚ) ≠ 0 := Nat.cast_ne_zero.2 (rounded_shortest hx hzero).1
    exact mul_ne_zero hdigits (zpow_ne_zero _ (by norm_num)) hvalue
  · intro hzero
    rw [shortest_zero hzero, value]
    simp

/-- The sign of a double and the value of its shortest decimal say which double it is. -/
theorem eq_of_value_shortest {y : Double} (hx : x.IsProper) (hy : y.IsProper) (hsign : x.negative = y.negative)
    (hvalue : (shortest x).value = (shortest y).value) : x = y := by
  by_cases hzero : x.mantissa = 0
  · have hzero' : y.mantissa = 0 := by rwa [← value_shortest_eq_zero_iff hy, ← hvalue, value_shortest_eq_zero_iff hx]
    rw [hx.eq_zero hzero, hy.eq_zero hzero', hsign]
  · have hzero' : y.mantissa ≠ 0 := by
      rwa [ne_eq, ← value_shortest_eq_zero_iff hy, ← hvalue, value_shortest_eq_zero_iff hx]
    have hrounded := (rounded_shortest hx hzero).2
    rw [hsign, hvalue, (rounded_shortest hy hzero').2] at hrounded
    exact (Option.some.inj hrounded).symm

end Shortest

end Decimal

end YamlSchema
