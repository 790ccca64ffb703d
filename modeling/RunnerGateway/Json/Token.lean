import RunnerGateway.Json.Basic
import RunnerGateway.Json.Fault

/-!
# The tokens of JSON text

Literals, numbers and strings, read from the front of a list of bytes.  Each reader gives back what
it read and the bytes after it, or the fault that it met.  Readers whose recursion is not on the
bytes themselves take a `fuel` of at least the length of the text.
-/

namespace RunnerGateway
namespace Json

/-- What a reader gives: a value and the bytes after it, or a fault. -/
abbrev Result (α : Type) := Except Fault (α × Bytes)

/-- The byte of an ASCII character. -/
def ascii (c : Char) : UInt8 := UInt8.ofNat c.toNat

/-- A byte that may stand between tokens. -/
def isSpace (b : UInt8) : Bool :=
  b = 0x20 || b = 0x0A || b = 0x09 || b = 0x0D

/-- The bytes from the next token on. -/
def skipSpace (b : Bytes) : Bytes :=
  b.dropWhile isSpace

/-- Reads the given letters. -/
def readLetters : List Char → Bytes → Except Fault Bytes
  | [], b => .ok b
  | _ :: _, [] => .error (.here .eofValue [])
  | l :: ls, c :: b => if c = ascii l then readLetters ls b else .error (.here .expectedIdent b)

/-! ## Numbers -/

/-- The value of a digit. -/
def digit? (b : UInt8) : Option Nat :=
  if 0x30 ≤ b ∧ b ≤ 0x39 then some (b.toNat - 0x30) else none

/-- The bytes after a run of digits. -/
def skipDigits (b : Bytes) : Bytes :=
  b.dropWhile fun c => (digit? c).isSome

/-- The byte starts an exponent. -/
def isExponentMark (b : UInt8) : Bool :=
  b = ascii 'e' || b = ascii 'E'

/-- The double `significand * 10 ^ exponent`. -/
def finishDouble (negative : Bool) (significand : Nat) (exponent : Int) (b : Bytes) : Result Json :=
  match readDouble negative significand exponent with
  | some x => .ok (.float x, b)
  | none => .error (.here .numberOutOfRange b)

/-- The largest exponent that is read as such. -/
def maxExponent : Nat := Nat.pow 2 31 - 1

/-- An exponent past the largest one: a number that is out of range, or a zero. -/
def finishHugeExponent (negative : Bool) (significand : Nat) (down : Bool) (b : Bytes) :
    Result Json :=
  if significand ≠ 0 ∧ down = false then .error (.here .numberOutOfRange b)
  else .ok (.float (if negative then Double.zero.neg else Double.zero), skipDigits b)

/-- The digits of an exponent after the first one. -/
def readExponentDigits (negative : Bool) (significand : Nat) (start : Int) (down : Bool)
    (value : Nat) : Bytes → Result Json
  | [] => finishDouble negative significand (if down then start - value else start + value) []
  | c :: b =>
    match digit? c with
    | some d =>
      let value := value * 10 + d
      if value ≤ maxExponent then readExponentDigits negative significand start down value b
      else finishHugeExponent negative significand down b
    | none =>
      finishDouble negative significand (if down then start - value else start + value) (c :: b)

/-- An exponent from its first digit on. -/
def readUnsignedExponent (negative : Bool) (significand : Nat) (start : Int) (down : Bool) :
    Bytes → Result Json
  | [] => .error (.here .eofValue [])
  | c :: b =>
    match digit? c with
    | some d => readExponentDigits negative significand start down d b
    | none => .error (.here .invalidNumber b)

/-- An exponent, after its mark. -/
def readExponent (negative : Bool) (significand : Nat) (start : Int) (b : Bytes) : Result Json :=
  match b with
  | [] => readUnsignedExponent negative significand start false []
  | c :: rest =>
    if c = ascii '+' then readUnsignedExponent negative significand start false rest
    else if c = ascii '-' then readUnsignedExponent negative significand start true rest
    else readUnsignedExponent negative significand start false (c :: rest)

/-- What may follow the digits of a number with a fraction or too many digits. -/
def finishDigits (negative : Bool) (significand : Nat) (exponent : Int) (b : Bytes) :
    Result Json :=
  match b with
  | [] => finishDouble negative significand exponent []
  | c :: rest =>
    if isExponentMark c then readExponent negative significand exponent rest
    else finishDouble negative significand exponent (c :: rest)

/-- The digits after the point; digits that do not fit the significand any more are dropped. -/
def readFraction (negative : Bool) (significand : Nat) (before after : Nat) :
    Bytes → Result Json
  | [] =>
    if after = 0 then .error (.next .eofValue [])
    else finishDigits negative significand ((before : Int) - after) []
  | c :: b =>
    match digit? c with
    | some d =>
      let grown := significand * 10 + d
      if grown ≤ Text.maxWord then readFraction negative grown before (after + 1) b
      else finishDigits negative significand ((before : Int) - after) (skipDigits b)
    | none =>
      if after = 0 then .error (.next .invalidNumber (c :: b))
      else finishDigits negative significand ((before : Int) - after) (c :: b)

/-- The digits of a whole number that do not fit the significand any more, counted. -/
def readLongWhole (negative : Bool) (significand dropped : Nat) : Bytes → Result Json
  | [] => finishDouble negative significand dropped []
  | c :: b =>
    match digit? c with
    | some _ => readLongWhole negative significand (dropped + 1) b
    | none =>
      if c = ascii '.' then readFraction negative significand dropped 0 b
      else finishDigits negative significand dropped (c :: b)

/-- A whole number: an integer if it is in range, and else a double. -/
def wholeNumber (negative : Bool) (significand : Nat) : Json :=
  if negative then
    if significand = 0 ∨ Text.maxSigned + 1 < significand then .float (Double.ofNat significand).neg
    else .int (-(significand : Int))
  else .int (significand : Int)

/-- What may follow the digits of a whole number. -/
def finishWhole (negative : Bool) (significand : Nat) (b : Bytes) : Result Json :=
  match b with
  | [] => .ok (wholeNumber negative significand, [])
  | c :: rest =>
    if c = ascii '.' then readFraction negative significand 0 0 rest
    else if isExponentMark c then readExponent negative significand 0 rest
    else .ok (wholeNumber negative significand, c :: rest)

/-- The digits of a whole number after the first one. -/
def readWhole (negative : Bool) (significand : Nat) : Bytes → Result Json
  | [] => finishWhole negative significand []
  | c :: b =>
    match digit? c with
    | some d =>
      let grown := significand * 10 + d
      if grown ≤ Text.maxWord then readWhole negative grown b
      else readLongWhole negative significand 1 b
    | none => finishWhole negative significand (c :: b)

/-- A number after its sign; a leading zero stands alone. -/
def readNumber (negative : Bool) (b : Bytes) : Result Json :=
  match b with
  | [] => .error (.here .eofValue [])
  | c :: rest =>
    match digit? c with
    | none => .error (.here .invalidNumber rest)
    | some 0 =>
      match rest with
      | [] => finishWhole negative 0 []
      | d :: more =>
        if (digit? d).isSome then .error (.next .invalidNumber (d :: more))
        else finishWhole negative 0 (d :: more)
    | some d => readWhole negative d rest

/-! ## Strings -/

/-- The value of a digit of base sixteen. -/
def hexDigit? (b : UInt8) : Option Nat :=
  if 0x30 ≤ b ∧ b ≤ 0x39 then some (b.toNat - 0x30)
  else if 0x41 ≤ b ∧ b ≤ 0x46 then some (b.toNat - 0x41 + 10)
  else if 0x61 ≤ b ∧ b ≤ 0x66 then some (b.toNat - 0x61 + 10)
  else none

/-- The number of four digits of base sixteen. -/
def readHex (b : Bytes) : Result Nat :=
  match b with
  | d₁ :: d₂ :: d₃ :: d₄ :: rest =>
    match hexDigit? d₁, hexDigit? d₂, hexDigit? d₃, hexDigit? d₄ with
    | some a, some b, some c, some d => .ok (((a * 16 + b) * 16 + c) * 16 + d, rest)
    | _, _, _, _ => .error (.here .invalidEscape rest)
  | _ => .error (.here .eofString [])

/-- The UTF-8 bytes of a code point. -/
def codePointBytes (n : Nat) : Bytes :=
  String.utf8EncodeChar (Char.ofNat n)

/-- The second half of a code point beyond 16 bits, which has to be an escape of its own. -/
def readLowSurrogate (high : Nat) (b : Bytes) : Result Bytes :=
  match b with
  | [] => .error (.here .eofString [])
  | c :: b =>
    if c ≠ ascii '\\' then .error (.here .unfinishedEscape b)
    else
      match b with
      | [] => .error (.here .eofString [])
      | u :: b =>
        if u ≠ ascii 'u' then .error (.here .unfinishedEscape b)
        else
          match readHex b with
          | .error f => .error f
          | .ok (low, rest) =>
            if 0xDC00 ≤ low ∧ low ≤ 0xDFFF then
              .ok (codePointBytes (0x10000 + (high - 0xD800) * 1024 + (low - 0xDC00)), rest)
            else .error (.here .loneSurrogate rest)

/-- A code point written by number, after `\u`. -/
def readCodePoint (b : Bytes) : Result Bytes :=
  match readHex b with
  | .error f => .error f
  | .ok (n, rest) =>
    if 0xDC00 ≤ n ∧ n ≤ 0xDFFF then .error (.here .loneSurrogate rest)
    else if 0xD800 ≤ n ∧ n ≤ 0xDBFF then readLowSurrogate n rest
    else .ok (codePointBytes n, rest)

/-- The byte that a one-letter escape stands for. -/
def escapedByte? (b : UInt8) : Option UInt8 :=
  if b = ascii '"' then some b
  else if b = ascii '\\' then some b
  else if b = ascii '/' then some b
  else if b = ascii 'b' then some 0x08
  else if b = ascii 'f' then some 0x0C
  else if b = ascii 'n' then some 0x0A
  else if b = ascii 'r' then some 0x0D
  else if b = ascii 't' then some 0x09
  else none

/-- What an escape stands for, after its backslash. -/
def readEscape (b : Bytes) : Result Bytes :=
  match b with
  | [] => .error (.here .eofString [])
  | c :: rest =>
    match escapedByte? c with
    | some e => .ok ([e], rest)
    | none => if c = ascii 'u' then readCodePoint rest else .error (.here .invalidEscape rest)

/-- The bytes of a string up to its closing quote; `done` holds those already read, last first. -/
def readStringBytes : (fuel : Nat) → (done : Bytes) → Bytes → Result Bytes
  | 0, _, b => .error (.here .eofString b)
  | _ + 1, _, [] => .error (.here .eofString [])
  | fuel + 1, done, c :: b =>
    if c = ascii '"' then .ok (done.reverse, b)
    else if c = ascii '\\' then
      match readEscape b with
      | .error f => .error f
      | .ok (e, rest) => readStringBytes fuel (e.reverse ++ done) rest
    else if c < 0x20 then .error (.here .controlCharacter b)
    else readStringBytes fuel (c :: done) b

/-- The text of UTF-8 bytes. -/
def decodeUtf8? (b : Bytes) : Option String :=
  String.fromUTF8? b.toByteArray

/-- A string after its opening quote; bytes that are no text are noticed at the closing quote. -/
def readString (fuel : Nat) (b : Bytes) : Result String :=
  match readStringBytes fuel [] b with
  | .error f => .error f
  | .ok (bytes, rest) =>
    match decodeUtf8? bytes with
    | some s => .ok (s, rest)
    | none => .error (.here .invalidCodePoint (ascii '"' :: rest))

/-! ## Scalars -/

/-- A literal or a number, if `c` starts one; `none` if it starts nothing of that kind. -/
def readScalar? (fuel : Nat) (c : UInt8) (b : Bytes) : Option (Result Json) :=
  if c = ascii 'n' then some ((readLetters ['u', 'l', 'l'] b).map fun b => (.null, b))
  else if c = ascii 't' then
    some ((readLetters ['r', 'u', 'e'] b).map fun b => (.bool true, b))
  else if c = ascii 'f' then
    some ((readLetters ['a', 'l', 's', 'e'] b).map fun b => (.bool false, b))
  else if c = ascii '-' then some (readNumber true b)
  else if (digit? c).isSome then some (readNumber false (c :: b))
  else if c = ascii '"' then some ((readString fuel b).map fun (s, b) => (.str s, b))
  else none

end Json
end RunnerGateway
