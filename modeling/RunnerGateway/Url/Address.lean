import RunnerGateway.Text.Blank
import RunnerGateway.Text.Numeral

/-!
# Internet addresses in URLs

Hosts that are numbers.  A version 4 address has up to four parts, each in base eight, ten or
sixteen, and the last part fills the bytes that are left.  A version 6 address is eight pieces of
sixteen bits, of which one run of zeros may be left out; it is written with small digits and with
its longest run of at least two zeros left out, the first one of several.
-/

namespace RunnerGateway
namespace Url

/-- The value of a digit in the given base. -/
def digitIn? (base : Nat) (c : Char) : Option Nat :=
  let n := c.toNat
  let value :=
    if 0x30 ≤ n ∧ n ≤ 0x39 then some (n - 0x30)
    else if 0x41 ≤ n ∧ n ≤ 0x46 then some (n - 0x41 + 10)
    else if 0x61 ≤ n ∧ n ≤ 0x66 then some (n - 0x61 + 10)
    else none
  value.filter fun v => v < base

/-- The number that digits of a base denote. -/
def readBase? (base : Nat) (cs : List Char) : Option Nat :=
  cs.foldl (fun acc c => acc.bind fun n => (digitIn? base c).map fun d => n * base + d) (some 0)

/-! ## Version 4 -/

/-- One part of a version 4 address, in the base that its first characters announce. -/
def readPart? (cs : List Char) : Option Nat :=
  match cs with
  | [] => none
  | '0' :: 'x' :: rest => readBase? 16 rest
  | '0' :: 'X' :: rest => readBase? 16 rest
  | '0' :: rest => readBase? 8 rest
  | cs => readBase? 10 cs

/-- The parts of a host between its dots, without an empty last one. -/
def hostParts (cs : List Char) : List (List Char) :=
  let parts := Text.pieces '.' cs
  match parts.reverse with
  | [] :: front@(_ :: _) => front.reverse
  | _ => parts

/-- The last part of the host is a number, so that the host has to be an address. -/
def endsInNumber (cs : List Char) : Bool :=
  match (hostParts cs).getLast? with
  | none => false
  | some [] => false
  | some last => (last.all fun c => (Text.digit? c).isSome) || (readPart? last).isSome

/-- The number of a version 4 address. -/
def readAddress4? (cs : List Char) : Option Nat :=
  let parts := hostParts cs
  if 4 < parts.length then none
  else
    match parts.mapM readPart? with
    | none => none
    | some numbers =>
      match numbers.reverse with
      | [] => none
      | last :: front =>
        let count := front.length
        if Nat.pow 256 (4 - count) ≤ last ∨ front.any (fun n => 255 < n) then none
        else
          some (front.reverse.foldl (fun acc n => acc * 256 + n) 0 * Nat.pow 256 (4 - count) + last)

/-- A version 4 address with its four bytes in base ten. -/
def address4Text (n : Nat) : String :=
  let byte (k : Nat) := Text.numeral (n / Nat.pow 256 k % 256)
  byte 3 ++ "." ++ byte 2 ++ "." ++ byte 1 ++ "." ++ byte 0

/-! ## Version 6 -/

/-- One to four digits of base sixteen. -/
def readPiece? (cs : List Char) : Option Nat :=
  if cs.isEmpty ∨ 4 < cs.length then none else readBase? 16 cs

/-- A decimal byte without leading zeros. -/
def readByte? (cs : List Char) : Option Nat :=
  match cs with
  | [] => none
  | ['0'] => some 0
  | '0' :: _ => none
  | cs => if 3 < cs.length then none else (readBase? 10 cs).filter fun n => n < 256

/-- The two pieces of four decimal bytes. -/
def readDotted? (cs : List Char) : Option (List Nat) :=
  match (Text.pieces '.' cs).mapM readByte? with
  | some [a, b, c, d] => some [a * 256 + b, c * 256 + d]
  | _ => none

/-- Pieces between colons; the last one may be four decimal bytes. -/
def readPieces? : List (List Char) → Option (List Nat)
  | [] => some []
  | [last] => if last.contains '.' then readDotted? last else (readPiece? last).map fun n => [n]
  | piece :: rest =>
    match readPiece? piece, readPieces? rest with
    | some n, some ns => some (n :: ns)
    | _, _ => none

/-- The text before and after the first `::`. -/
def splitGap? : List Char → Option (List Char × List Char)
  | ':' :: ':' :: rest => some ([], rest)
  | c :: rest => (splitGap? rest).map fun (before, after) => (c :: before, after)
  | [] => none

/-- The pieces of a possibly empty side of a gap. -/
def readSide? (cs : List Char) : Option (List Nat) :=
  if cs.isEmpty then some [] else readPieces? (Text.pieces ':' cs)

/-- The eight pieces of a version 6 address. -/
def readAddress6? (cs : List Char) : Option (List Nat) :=
  match splitGap? cs with
  | none => (readPieces? (Text.pieces ':' cs)).filter fun ns => ns.length = 8
  | some (before, after) =>
    if before.contains '.' then none
    else
      match readSide? before, readSide? after with
      | some front, some back =>
        let count := front.length + back.length
        if 7 < count then none else some (front ++ List.replicate (8 - count) 0 ++ back)
      | _, _ => none

/-- How many zeros a list starts with. -/
def zeroRun (ns : List Nat) : Nat :=
  (ns.takeWhile fun n => n = 0).length

/-- The position and length of the longest run of zeros, the first one of several. -/
def longestRun : (position : Nat) → List Nat → Nat × Nat
  | _, [] => (0, 0)
  | position, n :: ns =>
    let here := zeroRun (n :: ns)
    let later := longestRun (position + 1) ns
    if later.2 ≤ here then (position, here) else later

/-- Pieces in base sixteen with colons between them. -/
def piecesText (ns : List Nat) : List Char :=
  List.intercalate [':'] (ns.map (Nat.toDigits 16))

/-- A version 6 address between square brackets. -/
def address6Text (ns : List Nat) : String :=
  let (position, count) := longestRun 0 ns
  let text :=
    if count < 2 then piecesText ns
    else piecesText (ns.take position) ++ [':', ':'] ++ piecesText (ns.drop (position + count))
  String.ofList ('[' :: (text ++ [']']))

end Url
end RunnerGateway
