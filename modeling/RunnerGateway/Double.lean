/-!
# Double-precision numbers

A 64-bit binary floating-point number is kept as its bits, so that equality is decidable and two
zeros or two infinities are told apart.  Arithmetic goes through exact fractions: a result is the
fraction's nearest double, and a half goes to the even neighbour.
-/

namespace RunnerGateway

/-- A 64-bit binary floating-point number, given by its bits. -/
structure Double where
  bits : UInt64
  deriving DecidableEq, Repr

namespace Double

/-- The value of the lowest bit above the fraction. -/
def fractionUnit : Nat := Nat.pow 2 52

/-- The value of the sign bit. -/
def signUnit : Nat := Nat.pow 2 63

/-- The sign bit is set. -/
def isNegative (x : Double) : Bool :=
  signUnit ≤ x.bits.toNat

/-- The eleven bits between the sign and the fraction. -/
def exponentField (x : Double) : Nat :=
  x.bits.toNat / fractionUnit % 2048

/-- The lower fifty-two bits. -/
def fractionField (x : Double) : Nat :=
  x.bits.toNat % fractionUnit

/-- A number, and neither an infinity nor the outcome of an undefined operation. -/
def isFinite (x : Double) : Bool :=
  x.exponentField < 2047

/-- The integer `m` of the absolute value `m * 2 ^ q`. -/
def mantissa (x : Double) : Nat :=
  if x.exponentField = 0 then x.fractionField else x.fractionField + fractionUnit

/-- The integer `q` of the absolute value `m * 2 ^ q`. -/
def exponent (x : Double) : Int :=
  if x.exponentField = 0 then -1074 else (x.exponentField : Int) - 1075

/-- Either zero. -/
def isZero (x : Double) : Bool :=
  x.exponentField = 0 && x.fractionField = 0

/-- The double with sign, exponent field and fraction field as given. -/
def ofFields (negative : Bool) (exponentField fractionField : Nat) : Double :=
  ⟨UInt64.ofNat
    ((if negative then signUnit else 0) + exponentField * fractionUnit + fractionField)⟩

/-- The zero without a sign. -/
def zero : Double := ofFields false 0 0

/-- The same number with the other sign. -/
def neg (x : Double) : Double :=
  ofFields (!x.isNegative) x.exponentField x.fractionField

/-- The quotient rounded to the nearest integer, a half going to the even one. -/
def roundQuotient (num den : Nat) : Nat :=
  let quotient := num / den
  let twice := 2 * (num % den)
  if twice < den then quotient
  else if den < twice then quotient + 1
  else if quotient % 2 = 0 then quotient else quotient + 1

/-- The factor `base ^ q` of a fraction, as a factor of its numerator. -/
def upFactor (base : Nat) (q : Int) : Nat := Nat.pow base q.toNat

/-- The factor `base ^ q` of a fraction, as a factor of its denominator. -/
def downFactor (base : Nat) (q : Int) : Nat := Nat.pow base (-q).toNat

/-- The nearest non-negative double of the fraction `num / den`, if it is in range. -/
def ofRatio (num den : Nat) : Option Double :=
  if num = 0 ∨ den = 0 then some zero
  else
    let guess : Int := (Nat.log2 num : Int) - (Nat.log2 den : Int) - 52
    let wide (q : Int) : Bool :=
      num * downFactor 2 q < fractionUnit * (den * upFactor 2 q)
    let q := max (if wide guess then guess - 1 else guess) (-1074)
    let m := roundQuotient (num * downFactor 2 q) (den * upFactor 2 q)
    let (m, q) := if m = 2 * fractionUnit then (fractionUnit, q + 1) else (m, q)
    if 971 < q then none
    else if m < fractionUnit then some (ofFields false 0 m)
    else some (ofFields false (q + 1075).toNat (m - fractionUnit))

/-- The nearest double of a natural number below `2 ^ 64`. -/
def ofNat (n : Nat) : Double :=
  (ofRatio n 1).getD zero

/-- The nearest double of a power of ten, up to the largest one in range. -/
def tenPower (e : Nat) : Double :=
  (ofRatio (Nat.pow 10 e) 1).getD zero

/-- The product of two non-negative doubles, if it is in range. -/
def mul (x y : Double) : Option Double :=
  ofRatio (x.mantissa * y.mantissa * upFactor 2 (x.exponent + y.exponent))
    (downFactor 2 (x.exponent + y.exponent))

/-- The quotient of two non-negative doubles, if it is in range. -/
def div (x y : Double) : Option Double :=
  ofRatio (x.mantissa * upFactor 2 (x.exponent - y.exponent))
    (y.mantissa * downFactor 2 (x.exponent - y.exponent))

end Double
end RunnerGateway
