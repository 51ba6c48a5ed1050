import YamlSchema.Decimal.Double

/-!
# The shortest decimal of a double

`Decimal.shortest x` is the decimal with the fewest digits that reads back as `x`, the nearest one if two have as
few.  A `Decimal.Layout` says how the digits are laid out: from which power of ten an exponent is written and how.
-/

namespace YamlSchema

/-- The number `digits · 10 ^ power`. -/
structure Decimal where
  digits : Nat
  power : Int
  deriving DecidableEq, Repr

namespace Decimal

/-- The value with a sign as a fraction. -/
def signedRatio (d : Decimal) (negative : Bool) : Int × Nat :=
  let n := d.digits * Nat.pow 10 d.power.toNat
  (if negative then -(n : Int) else n, Nat.pow 10 (-d.power).toNat)

/-- Magnitude of the distance of `digits · 10 ^ power` from the fraction `num / den`, times a factor that does not
depend on `digits`. -/
def distance (num den : Nat) (power : Int) (digits : Nat) : Nat :=
  if 0 ≤ power then ((digits * Nat.pow 10 power.toNat * den : Nat) - (num : Int)).natAbs
  else ((digits * den : Nat) - (num * Nat.pow 10 (-power).toNat : Nat) : Int).natAbs

/-- The whole part of `num / den / 10 ^ power`. -/
def gridFloor (num den : Nat) (power : Int) : Nat :=
  if 0 ≤ power then num / (den * Nat.pow 10 power.toNat) else num * Nat.pow 10 (-power).toNat / den

/-- The least `p` with `num / den < 10 ^ p`, searched upwards from `p`. -/
def magnitude (num den : Nat) : Nat → Int → Int
  | 0, p => p
  | fuel + 1, p => if gridFloor num den p = 0 then p else magnitude num den fuel (p + 1)

/-- The best decimal on the grid of step `10 ^ power` that reads back as `x`. -/
def onGrid? (x : Double) (power : Int) : Option Decimal :=
  let (num, den) := x.ratio
  let low := gridFloor num den power
  let reads := [low, low + 1].filter fun d => Double.ofDecimal x.negative d power = some x
  match reads with
  | [] => none
  | [d] => some ⟨d, power⟩
  | a :: b :: _ =>
    let da := distance num den power a
    let db := distance num den power b
    if da < db ∨ (da = db ∧ a % 2 = 0) then some ⟨a, power⟩ else some ⟨b, power⟩

def firstGrid (x : Double) (top : Int) : Nat → Int → Decimal
  | 0, power => (onGrid? x power).getD ⟨0, 0⟩
  | fuel + 1, power =>
    match onGrid? x power with
    | some d => d
    | none => firstGrid x top fuel (power - 1)

/-- Moves trailing zeros of the digits into the power. -/
def stripZeros : Nat → Decimal → Decimal
  | 0, d => d
  | fuel + 1, d => if d.digits ≠ 0 ∧ d.digits % 10 = 0 then stripZeros fuel ⟨d.digits / 10, d.power + 1⟩ else d

/-- The fewest digits that read back; seventeen always suffice. -/
def shortest (x : Double) : Decimal :=
  if x.mantissa = 0 then ⟨0, 0⟩ else
    let (num, den) := x.ratio
    let top := magnitude num den 640 (-324)
    stripZeros 20 (firstGrid x top 17 (top - 1))

/-- How a decimal is written: an exponent is used outside `low < point ≤ high`, where `point` is the position of the
decimal point relative to the first digit. -/
structure Layout where
  low : Int
  high : Int
  /-- Whether a positive exponent carries a plus sign. -/
  plus : Bool
  /-- Whether a whole number ends in `.0`. -/
  pointZero : Bool

def zeros (n : Nat) : String := String.ofList (List.replicate n '0')

/-- The digits with the point placed, or with an exponent, as the layout says. -/
def render (layout : Layout) (negative : Bool) (d : Decimal) : String :=
  let sign := if negative then "-" else ""
  let ds := Nat.toDigits 10 d.digits
  let point : Int := ds.length + d.power
  let body :=
    if d.digits = 0 then (if layout.pointZero then "0.0" else "0")
    else if layout.low < point ∧ point ≤ layout.high then
      if 0 ≤ d.power then
        String.ofList ds ++ zeros d.power.toNat ++ (if layout.pointZero then ".0" else "")
      else if 0 < point then
        String.ofList (ds.take point.toNat) ++ "." ++ String.ofList (ds.drop point.toNat)
      else "0." ++ zeros (-point).toNat ++ String.ofList ds
    else
      let e := point - 1
      let fraction := if ds.length = 1 then "" else "." ++ String.ofList (ds.drop 1)
      let mark := if 0 ≤ e ∧ layout.plus then "e+" else "e"
      String.ofList (ds.take 1) ++ fraction ++ mark ++ toString e
  sign ++ body

/-- Plain positional notation at every size, whole numbers without a point. -/
def plain : Layout := ⟨-1000, 1000, false, false⟩

end Decimal

end YamlSchema
