/-!
# Binary floating-point numbers as exact values

A finite double is kept as `± mantissa · 2 ^ exponent`, so every question about it (order against an integer,
remainder, nearest neighbour of a fraction) is answered in exact integer arithmetic.  `Double.ofRatio` rounds a
fraction to the nearest double, a tie to the even mantissa, and `Double.ofDecimal` reads a decimal the same way.
-/

namespace YamlSchema

/-- A finite double: `mantissa < 2 ^ 53`, and `exponent = -1074` unless `2 ^ 52 ≤ mantissa`. -/
structure Double where
  negative : Bool
  mantissa : Nat
  exponent : Int
  deriving DecidableEq, Repr, Inhabited

namespace Double

/-- The exponent of the subnormal numbers. -/
def minExponent : Int := -1074

/-- The largest exponent of a finite double. -/
def maxExponent : Int := 971

def zero (negative : Bool) : Double := ⟨negative, 0, minExponent⟩

/-- The quotient rounded to the nearest natural number, a tie to the even one. -/
def roundedQuotient (num den : Nat) : Nat :=
  let q := num / den
  let r := num % den
  if 2 * r < den then q else if den < 2 * r then q + 1 else if q % 2 = 0 then q else q + 1

/-- `num / (den · 2 ^ e)` as a fraction of natural numbers. -/
def scaled (num den : Nat) (e : Int) : Nat × Nat :=
  if 0 ≤ e then (num, den * Nat.pow 2 e.toNat) else (num * Nat.pow 2 (-e).toNat, den)

/-- The double nearest to `± num / den`; `none` when that is beyond the largest finite one. -/
def ofRatio (negative : Bool) (num den : Nat) : Option Double :=
  if num = 0 then some (zero negative) else
    let guess : Int := (num.log2 : Int) - den.log2 - 52
    let (n, d) := scaled num den guess
    let fitted := if n / d < Nat.pow 2 52 then guess - 1 else guess
    let e := max fitted minExponent
    let (n, d) := scaled num den e
    let m := roundedQuotient n d
    let (m, e) := if m = Nat.pow 2 53 then (Nat.pow 2 52, e + 1) else (m, e)
    if maxExponent < e then none else some ⟨negative, m, e⟩

/-- The double nearest to `± digits · 10 ^ power`.  A power far outside the range of doubles is decided by the
number of digits alone. -/
def ofDecimal (negative : Bool) (digits : Nat) (power : Int) : Option Double :=
  if digits = 0 then some (zero negative) else
    let size : Int := (Nat.toDigits 10 digits).length + power
    if 400 < size then none
    else if size < -400 then some (zero negative)
    else if 0 ≤ power then ofRatio negative (digits * Nat.pow 10 power.toNat) 1
    else ofRatio negative digits (Nat.pow 10 (-power).toNat)

/-- The magnitude as a fraction. -/
def ratio (x : Double) : Nat × Nat :=
  if 0 ≤ x.exponent then (x.mantissa * Nat.pow 2 x.exponent.toNat, 1) else (x.mantissa, Nat.pow 2 (-x.exponent).toNat)

/-- The value as a fraction with a signed numerator. -/
def signedRatio (x : Double) : Int × Nat :=
  let (n, d) := x.ratio
  (if x.negative then -(n : Int) else n, d)

/-- The product, rounded; `none` beyond the largest double. -/
def mul (x y : Double) : Option Double :=
  ofRatio (x.negative != y.negative) (x.ratio.1 * y.ratio.1) (x.ratio.2 * y.ratio.2)

/-- The quotient by a double other than zero, rounded; `none` beyond the largest double. -/
def div (x y : Double) : Option Double :=
  ofRatio (x.negative != y.negative) (x.ratio.1 * y.ratio.2) (x.ratio.2 * y.ratio.1)

/-- A power of ten as a double, up to 1e308. -/
def tenPower (n : Nat) : Double := (ofRatio false (Nat.pow 10 n) 1).getD (zero false)

/-- Reads `digits · 10 ^ power` in steps: the digits are rounded to a double, which is then scaled by powers of ten
with a rounding at each step.  For at most fifteen digits and a power up to 22 this is the nearest double. -/
def ofScaled (negative : Bool) (digits : Nat) (power : Int) : Option Double :=
  let x := (ofRatio negative digits 1).getD (zero negative)
  if digits = 0 then some (zero negative)
  else if 308 < power then none
  else if 0 ≤ power then x.mul (tenPower power.toNat)
  else if -308 ≤ power then x.div (tenPower (-power).toNat)
  else
    let down := fun (x : Option Double) => x.bind fun d => d.div (tenPower 308)
    if power < -924 then some (zero negative)
    else if -616 ≤ power then (down (some x)).bind fun d => d.div (tenPower (-power - 308).toNat)
    else (down (down (some x))).bind fun d => d.div (tenPower (-power - 616).toNat)

/-- The integer that the value is, if it is one. -/
def toInt? (x : Double) : Option Int :=
  let (n, d) := x.signedRatio
  if n % d = 0 then some (n / d) else none

/-- Comparison by value; the two zeros are equal. -/
def compareRatio (a b : Int × Nat) : Ordering := compare (a.1 * b.2) (b.1 * a.2)

/-- The double nearest to an integer; integers of 64 bits never overflow. -/
def ofInt (i : Int) : Double :=
  (ofRatio (i < 0) i.natAbs 1).getD (zero false)

end Double

end YamlSchema
