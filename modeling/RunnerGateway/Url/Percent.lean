import RunnerGateway.Text.Blank

/-!
# Percent escapes

A byte that must not stand for itself is written as `%` and two digits of base sixteen.  Decoding
turns every complete escape into its byte and leaves everything else; encoding escapes the bytes of
the characters outside a given set.
-/

namespace RunnerGateway
namespace Url

/-- The value of a digit of base sixteen. -/
def hexValue? (b : UInt8) : Option UInt8 :=
  if 0x30 ≤ b ∧ b ≤ 0x39 then some (b - 0x30)
  else if 0x41 ≤ b ∧ b ≤ 0x46 then some (b - 0x41 + 10)
  else if 0x61 ≤ b ∧ b ≤ 0x66 then some (b - 0x61 + 10)
  else none

/-- The bytes with every escape replaced by its byte. -/
def percentDecode : List UInt8 → List UInt8
  | 0x25 :: a :: b :: rest =>
    match hexValue? a, hexValue? b with
    | some high, some low => (high * 16 + low) :: percentDecode rest
    | _, _ => 0x25 :: percentDecode (a :: b :: rest)
  | c :: rest => c :: percentDecode rest
  | [] => []

/-- The digit of base sixteen, capital. -/
def hexCapital (n : Nat) : Char :=
  if n < 10 then Char.ofNat (0x30 + n) else Char.ofNat (0x41 + (n - 10))

/-- The escape of a byte. -/
def percentByte (b : UInt8) : List Char :=
  ['%', hexCapital (b.toNat / 16), hexCapital (b.toNat % 16)]

/-- The characters with those in `escaped`, and all beyond ASCII, written as escapes. -/
def percentEncode (escaped : Char → Bool) (cs : List Char) : List Char :=
  cs.flatMap fun c =>
    if escaped c || 0x7E < c.toNat then (String.utf8EncodeChar c).flatMap percentByte else [c]

/-- A control character. -/
def isControl (c : Char) : Bool :=
  c.toNat < 0x20 || c.toNat == 0x7F

/-- Escaped in a fragment. -/
def escapedInFragment (c : Char) : Bool :=
  isControl c || c == ' ' || c == '"' || c == '<' || c == '>' || c == '\x60'

/-- Escaped in a query; a special scheme escapes the apostrophe too. -/
def escapedInQuery (special : Bool) (c : Char) : Bool :=
  isControl c || c == ' ' || c == '"' || c == '#' || c == '<' || c == '>' ||
    (special && c.toNat == 0x27)

/-- Escaped in a path. -/
def escapedInPath (c : Char) : Bool :=
  escapedInFragment c || c == '#' || c == '?' || c == '\x7b' || c == '\x7d'

/-- Escaped in a user name or password. -/
def escapedInUser (c : Char) : Bool :=
  escapedInPath c || c == '/' || c == ':' || c == ';' || c == '=' || c == '@' || c == '[' ||
    c == '\\' || c == ']' || c == '^' || c == '|'

end Url
end RunnerGateway
