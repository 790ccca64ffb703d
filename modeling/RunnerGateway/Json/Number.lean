import RunnerGateway.Double.Shortest
import RunnerGateway.Text.Numeral

/-!
# Numbers in JSON text

How a double is written, and which double a written decimal stands for.  Writing takes the fewest
digits that read back; positional notation is kept for exponents from -5 to 15, and outside that an
exponent is written with its sign and at least two digits.  Reading scales the digits, which must
fit a 64-bit word, by powers of ten in double precision, so that a long decimal may come out one
step beside the nearest double.
-/

namespace RunnerGateway
namespace Json

/-- `n` in base ten with at least two digits. -/
def exponentDigits (n : Nat) : String :=
  if n < 10 then "0" ++ Text.numeral n else Text.numeral n

/-- Digits with their first one standing for `10 ^ e`, in positional notation. -/
def positional (digits : List Char) (e : Int) : List Char :=
  if e < 0 then
    ['0', '.'] ++ List.replicate (-e - 1).toNat '0' ++ digits
  else
    let whole := e.toNat + 1
    if digits.length ≤ whole then
      digits ++ List.replicate (whole - digits.length) '0' ++ ['.', '0']
    else digits.take whole ++ ['.'] ++ digits.drop whole

/-- Digits with their first one standing for `10 ^ e`, in exponent notation. -/
def scientific (digits : List Char) (e : Int) : List Char :=
  let mantissa :=
    match digits with
    | [] => []
    | [d] => [d]
    | d :: rest => d :: '.' :: rest
  mantissa ++ ['e', if e < 0 then '-' else '+'] ++ (exponentDigits e.natAbs).toList

/-- The text of a finite double. -/
def doubleText (x : Double) : String :=
  let sign := if x.isNegative then ['-'] else []
  if x.isZero then String.ofList (sign ++ ['0', '.', '0'])
  else
    let decimal := x.shortest
    let digits := Nat.toDigits 10 decimal.digits
    let e := decimal.exponent + digits.length - 1
    String.ofList (sign ++ if -5 ≤ e ∧ e ≤ 15 then positional digits e else scientific digits e)

/-- `x` times `10 ^ e` in double precision, in steps of at most `10 ^ 308`; nothing if it is out of
range.  Four steps take every double to zero. -/
def scale (x : Double) : (steps : Nat) → Int → Option Double
  | 0, _ => some x
  | steps + 1, e =>
    if e.natAbs ≤ 308 then
      if 0 ≤ e then x.mul (Double.tenPower e.natAbs) else x.div (Double.tenPower e.natAbs)
    else if x.isZero then some x
    else if 0 ≤ e then none
    else
      match x.div (Double.tenPower 308) with
      | none => none
      | some y => scale y steps (e + 308)

/-- The double read for `significand * 10 ^ exponent`, if it is in range. -/
def readDouble (negative : Bool) (significand : Nat) (exponent : Int) : Option Double :=
  (scale (Double.ofNat significand) 4 exponent).map fun x => if negative then x.neg else x

end Json
end RunnerGateway
