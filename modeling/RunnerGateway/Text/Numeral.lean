/-!
# Decimal numerals

Reading whole numbers of a bounded range from ASCII digits.  A sign `+` is allowed everywhere, a
sign `-` only where negative numbers are wanted, and the four ways to fail are told apart.  Digits
are looked at from left to right, and the first thing wrong decides.
-/

namespace RunnerGateway
namespace Text

/-- Why a text is not a numeral of the wanted range. -/
inductive NumeralFault
  | empty
  | invalidDigit
  | tooLarge
  | tooSmall
  deriving DecidableEq, Repr

/-- What is wrong with the numeral, in words. -/
def NumeralFault.message : NumeralFault → String
  | .empty => "cannot parse integer from empty string"
  | .invalidDigit => "invalid digit found in string"
  | .tooLarge => "number too large to fit in target type"
  | .tooSmall => "number too small to fit in target type"

/-- The value of an ASCII digit. -/
def digit? (c : Char) : Option Nat :=
  if '0' ≤ c ∧ c ≤ '9' then some (c.toNat - '0'.toNat) else none

/-- Continues the numeral `value` with more digits, never past `limit`. -/
def continueNumeral (limit : Nat) (overflow : NumeralFault) (value : Nat) :
    List Char → Except NumeralFault Nat
  | [] => .ok value
  | c :: cs =>
    match digit? c with
    | none => .error .invalidDigit
    | some d =>
      let next := value * 10 + d
      if next ≤ limit then continueNumeral limit overflow next cs else .error overflow

/-- The number up to `limit` that digits denote, of which there must be one. -/
def readDigits (limit : Nat) (overflow : NumeralFault) : List Char → Except NumeralFault Nat
  | [] => .error .invalidDigit
  | cs => continueNumeral limit overflow 0 cs

/-- The natural number up to `limit` that a numeral denotes. -/
def readNat (limit : Nat) : List Char → Except NumeralFault Nat
  | [] => .error .empty
  | '+' :: cs => readDigits limit .tooLarge cs
  | cs => readDigits limit .tooLarge cs

/-- The whole number from `-(limit + 1)` to `limit` that a numeral denotes. -/
def readInt (limit : Nat) : List Char → Except NumeralFault Int
  | '-' :: cs => (readDigits (limit + 1) .tooSmall cs).map fun n => -(n : Int)
  | cs => (readNat limit cs).map fun n => (n : Int)

/-- The largest number of an unsigned 64-bit word. -/
def maxWord : Nat := Nat.pow 2 64 - 1

/-- The largest number of a signed 64-bit word. -/
def maxSigned : Nat := Nat.pow 2 63 - 1

/-- The unsigned 64-bit number that a text denotes. -/
def readWord (s : String) : Except NumeralFault Nat :=
  readNat maxWord s.toList

/-- The digits of a natural number in base ten, without leading zeros. -/
def numeral (n : Nat) : String :=
  String.ofList (Nat.toDigits 10 n)

/-- The digits of a whole number in base ten, after a `-` if it is negative. -/
def signedNumeral : Int → String
  | .ofNat n => numeral n
  | .negSucc n => "-" ++ numeral (n + 1)

end Text
end RunnerGateway
