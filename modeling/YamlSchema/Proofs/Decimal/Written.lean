import YamlSchema.Proofs.Decimal.Shortest
import YamlSchema.Proofs.Tree.Literals

/-!
# The value of a written decimal

The literal as which a decimal is written has the sign and the value of the decimal, whatever the layout
(`Decimal.amount_literal`), and shows that no integer was meant (`Decimal.not_whole_literal`).  Hence the literal of the
shortest decimal tells which double was written (`Decimal.eq_of_literal_shortest`), as the literal of an integer
tells which integer (`Number.literalOfInt_injective`).
-/

namespace YamlSchema

/-! ### Strings of digits -/

namespace Json

theorem naturalOf_append (ds es : List Char) : naturalOf (ds ++ es) = naturalOf ds * 10 ^ es.length + naturalOf es := by
  induction es using List.reverseRecOn with
  | nil => simp [naturalOf]
  | append_singleton es c ih =>
    have hlast : ∀ cs, naturalOf (cs ++ [c]) = naturalOf cs * 10 + digitValue c := fun cs => by
      simp only [naturalOf, List.foldl_append, List.foldl_cons, List.foldl_nil]
    rw [← List.append_assoc, hlast, hlast, ih, List.length_append, List.length_singleton, pow_succ]
    ring

theorem naturalOf_replicate_zero (n : ℕ) : naturalOf (List.replicate n '0') = 0 := by
  induction n with
  | zero => rfl
  | succ n ih =>
    rw [List.replicate_succ', naturalOf_append, ih]
    rfl

theorem naturalOf_toDigits (n : ℕ) : naturalOf (Nat.toDigits 10 n) = n := foldl_toDigits n

/-! ### Values of literals -/

namespace Literal

/-- The digits on both sides of the point. -/
def digits (l : Literal) : List Char := l.whole ++ l.fraction.getD []

/-- The exponent with its sign, zero if none is written. -/
def power (l : Literal) : ℤ :=
  (l.exponent.map fun e => if e.1 then -(naturalOf e.2 : ℤ) else naturalOf e.2).getD 0

/-- The number that is written, without its sign. -/
def amount (l : Literal) : ℚ := naturalOf l.digits * 10 ^ (l.power - (l.fraction.getD []).length)

end Literal

end Json

namespace Decimal

variable (layout : Layout) (negative : Bool)

theorem power_of_sign (e : ℤ) : (if decide (e < 0) = true then -(Json.naturalOf (Nat.toDigits 10 e.natAbs) : ℤ)
    else Json.naturalOf (Nat.toDigits 10 e.natAbs)) = e := by
  rw [Json.naturalOf_toDigits]
  simp only [decide_eq_true_eq]
  split <;> omega

/-- Zeros behind the digits are balanced by the power. -/
theorem amount_eq_value {l : Json.Literal} {d : Decimal} (k : ℕ) (hdigits : Json.naturalOf l.digits = d.digits * 10 ^ k)
    (hpower : l.power - (l.fraction.getD []).length = d.power - k) : l.amount = d.value := by
  rw [Json.Literal.amount, value, hdigits, hpower, zpow_sub₀ (by norm_num), zpow_natCast]
  push_cast
  field_simp

section Amounts

variable {d : Decimal} {ds : List Char} (hds : Json.naturalOf ds = d.digits)

include hds

theorem amount_padded (hpower : 0 ≤ d.power) :
    (⟨negative, ds ++ List.replicate d.power.toNat '0', some ['0'], none⟩ : Json.Literal).amount = d.value := by
  have hzero : Json.naturalOf ['0'] = 0 := rfl
  refine amount_eq_value (d.power.toNat + 1) ?_ ?_
  · simp only [Json.Literal.digits, Option.getD_some, Json.naturalOf_append, Json.naturalOf_replicate_zero, hzero, hds,
      List.length_replicate, List.length_singleton, Nat.add_zero, pow_succ, pow_zero, mul_assoc, one_mul]
  · change (0 : ℤ) - 1 = d.power - (d.power.toNat + 1 : ℕ)
    omega

theorem amount_split {n : ℕ} (hn : (n : ℤ) = ds.length + d.power) (hpower : ¬ 0 ≤ d.power) :
    (⟨negative, ds.take n, some (ds.drop n), none⟩ : Json.Literal).amount = d.value := by
  refine amount_eq_value 0 ?_ ?_
  · simp only [Json.Literal.digits, Option.getD_some, List.take_append_drop, hds, pow_zero, mul_one]
  · change (0 : ℤ) - (ds.drop n).length = d.power - (0 : ℕ)
    rw [List.length_drop]
    omega

theorem amount_behind {n : ℕ} (hn : (n : ℤ) = -(ds.length + d.power)) :
    (⟨negative, ['0'], some (List.replicate n '0' ++ ds), none⟩ : Json.Literal).amount = d.value := by
  have hzero : Json.naturalOf ['0'] = 0 := rfl
  refine amount_eq_value 0 ?_ ?_
  · simp only [Json.Literal.digits, Option.getD_some, Json.naturalOf_append, Json.naturalOf_replicate_zero, hzero, hds,
      Nat.zero_mul, Nat.zero_add, pow_zero, mul_one]
  · change (0 : ℤ) - (List.replicate n '0' ++ ds).length = d.power - (0 : ℕ)
    rw [List.length_append, List.length_replicate]
    omega

theorem amount_scientific (hlength : 0 < ds.length) :
    (⟨negative, ds.take 1, if ds.drop 1 = [] then none else some (ds.drop 1),
      some (decide ((ds.length : ℤ) + d.power - 1 < 0), Nat.toDigits 10 ((ds.length : ℤ) + d.power - 1).natAbs)⟩ :
      Json.Literal).amount = d.value := by
  have hfraction : (if ds.drop 1 = [] then none else some (ds.drop 1)).getD [] = ds.drop 1 := by
    split
    · rename_i hnil
      rw [hnil, Option.getD_none]
    · exact Option.getD_some
  refine amount_eq_value 0 ?_ ?_
  · simp only [Json.Literal.digits, hfraction, List.take_append_drop, hds, pow_zero, mul_one]
  · simp only [Json.Literal.power, hfraction, Option.map_some, Option.getD_some, power_of_sign, List.length_drop]
    change (ds.length : ℤ) + d.power - 1 - (ds.length - 1 : ℕ) = d.power - (0 : ℕ)
    omega

end Amounts

/-- The literal has the value of the decimal. -/
theorem amount_literal (d : Decimal) : (d.literal layout negative).amount = d.value := by
  have hds := Json.naturalOf_toDigits d.digits
  have hlength : 0 < (Nat.toDigits 10 d.digits).length := List.length_pos_iff.2 Nat.toDigits_ne_nil
  rw [literal]
  generalize Nat.toDigits 10 d.digits = ds at hds hlength ⊢
  split
  · rename_i hd
    simp [hd, value, Json.Literal.amount, Json.Literal.digits, Json.naturalOf, Json.digitValue]
  · split
    · split
      · rename_i hpower
        exact amount_padded negative hds hpower
      · rename_i hpower
        split
        · exact amount_split negative hds (by omega) hpower
        · exact amount_behind negative hds (by omega)
    · exact amount_scientific negative hds hlength

theorem negative_literal (d : Decimal) : (d.literal layout negative).negative = negative := by
  rw [literal]
  repeat' split
  all_goals rfl

/-- A decimal is not written as an integer. -/
theorem not_whole_literal (d : Decimal) :
    ¬ ((d.literal layout negative).fraction = none ∧ (d.literal layout negative).exponent = none) := by
  rw [literal]
  repeat' split
  all_goals simp

/-- The literal of the shortest decimal tells which double was written. -/
theorem eq_of_literal_shortest {x y : Double} (hx : x.IsProper) (hy : y.IsProper)
    (h : (shortest x).literal layout x.negative = (shortest y).literal layout y.negative) : x = y := by
  refine eq_of_value_shortest hx hy ?_ ?_
  · rw [← negative_literal layout x.negative (shortest x), h, negative_literal]
  · rw [← amount_literal layout x.negative (shortest x), h, amount_literal]

end Decimal

theorem Number.literalOfInt_injective : Function.Injective Number.literalOfInt := by
  intro i j h
  have hsign : decide (i < 0) = decide (j < 0) := congrArg Json.Literal.negative h
  have hnatural : i.natAbs = j.natAbs := by
    rw [← Json.naturalOf_toDigits i.natAbs, ← Json.naturalOf_toDigits j.natAbs]
    exact congrArg (fun l => Json.naturalOf l.whole) h
  rw [decide_eq_decide] at hsign
  omega

end YamlSchema
