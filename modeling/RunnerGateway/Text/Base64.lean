/-!
# Base 64

Bytes as letters, digits and two signs, six bits each, and filled up with `=` to a multiple of four.
-/

namespace RunnerGateway
namespace Text

/-- The sixty-four characters. -/
def base64Alphabet : List Char :=
  "ABCDEFGHIJKLMNOPQRSTUVWXYZabcdefghijklmnopqrstuvwxyz0123456789+/".toList

/-- The character for the lowest six bits of `n`. -/
def base64Char (n : Nat) : Char :=
  base64Alphabet.getD (n % 64) 'A'

/-- The bytes in base 64, three at a time. -/
def base64 : List UInt8 → List Char
  | [] => []
  | [a] =>
    let n := a.toNat * 16
    [base64Char (n / 64), base64Char n, '=', '=']
  | [a, b] =>
    let n := (a.toNat * 256 + b.toNat) * 4
    [base64Char (n / 4096), base64Char (n / 64), base64Char n, '=']
  | a :: b :: c :: rest =>
    let n := (a.toNat * 256 + b.toNat) * 256 + c.toNat
    base64Char (n / 262144) :: base64Char (n / 4096) :: base64Char (n / 64) :: base64Char n ::
      base64 rest

end Text
end RunnerGateway
