import RunnerGateway.Double

/-!
# The shortest decimal of a double

Every finite double is the nearest one of a whole interval of reals.  Of the decimals in that
interval, the one with the fewest digits is taken, and of those the nearest to the double.  A grid
of decimals with a given digit count meets the interval only if one of the double's two neighbours
on that grid lies in it, so two candidates per digit count are enough; seventeen digits always
suffice.
-/

namespace RunnerGateway
namespace Double

/-- A positive decimal number `digits * 10 ^ exponent`. -/
structure Decimal where
  digits : Nat
  exponent : Int
  deriving DecidableEq, Repr

/-- The interval of reals whose nearest double is the given one, in quarters of its last place:
lower end, the double itself, upper end. -/
def quarters (x : Double) : Nat × Nat × Nat :=
  let m := 4 * x.mantissa
  let below := if x.fractionField = 0 ∧ 1 < x.exponentField then m - 1 else m - 2
  (below, m, m + 2)

/-- The greatest `e ≤ start` with `10 ^ e ≤ num / den`, looked for downwards. -/
def decimalExponent (num den : Nat) : (fuel : Nat) → Int → Int
  | 0, e => e
  | fuel + 1, e =>
    if den * upFactor 10 e ≤ num * downFactor 10 e then e
    else decimalExponent num den fuel (e - 1)

/-- The best decimal with a step of `10 ^ k` inside the interval of `x`, if there is one. -/
def onGrid (x : Double) (k : Int) : Option Decimal :=
  let (low, middle, high) := x.quarters
  let q := x.exponent - 2
  let up := upFactor 2 q * downFactor 10 k
  let step := downFactor 2 q * upFactor 10 k
  let within (d : Nat) : Bool :=
    if x.mantissa % 2 = 0 then low * up ≤ d * step && d * step ≤ high * up
    else low * up < d * step && d * step < high * up
  let d := middle * up / step
  let rest := 2 * (middle * up % step)
  let upper := decide (step < rest) || (decide (step = rest) && d % 2 = 1)
  match within d, within (d + 1) with
  | true, true => some ⟨if upper then d + 1 else d, k⟩
  | true, false => some ⟨d, k⟩
  | false, true => some ⟨d + 1, k⟩
  | false, false => none

/-- A decimal one past the largest with `count` digits is a power of ten and needs one digit. -/
def Decimal.carry (count : Nat) (d : Decimal) : Decimal :=
  if d.digits = Nat.pow 10 count then ⟨1, d.exponent + count⟩ else d

/-- The first hit on the grids from `digits` digits on. -/
def searchGrids (x : Double) (leading : Int) : (fuel : Nat) → (digits : Nat) → Decimal
  | 0, _ => ⟨0, 0⟩
  | fuel + 1, digits =>
    match x.onGrid (leading - digits + 1) with
    | some found => found.carry digits
    | none => searchGrids x leading fuel (digits + 1)

/-- The decimal with the fewest digits that reads back as the absolute value of `x`. -/
def shortest (x : Double) : Decimal :=
  let num := x.mantissa * upFactor 2 x.exponent
  let den := downFactor 2 x.exponent
  searchGrids x (decimalExponent num den 640 310) 17 1

end Double
end RunnerGateway
