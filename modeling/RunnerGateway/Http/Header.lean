import RunnerGateway.Text.Blank

/-!
# HTTP headers

Header fields in the order in which they came, with names in small letters and values as bytes.  A
name may stand several times.
-/

namespace RunnerGateway
namespace Http

/-- A header field. -/
structure Header where
  name : String
  value : List UInt8
  deriving DecidableEq, Repr

/-- The header fields of a message, in order. -/
abbrev Headers := List Header

namespace Header

/-- The field of a name, in any case, and a text. -/
def ofText (name value : String) : Header where
  name := String.ofList (name.toList.map Text.lowerAscii)
  value := value.toUTF8.toList

/-- A byte that a value may have: no control character but the tab. -/
def isValueByte (b : UInt8) : Bool :=
  b = 0x09 || (0x20 ≤ b && b ≠ 0x7F)

/-- A byte of a value that can be read as text. -/
def isTextByte (b : UInt8) : Bool :=
  b = 0x09 || (0x20 ≤ b && b < 0x7F)

/-- The value of a text, if a header may have it. -/
def valueOf? (text : String) : Option (List UInt8) :=
  let bytes := text.toUTF8.toList
  if bytes.all isValueByte then some bytes else none

/-- The characters of a value, if it is plain ASCII text. -/
def valueChars? (value : List UInt8) : Option (List Char) :=
  if value.all isTextByte then some (value.map fun b => Char.ofNat b.toNat) else none

end Header

namespace Headers

/-- The first value of a name. -/
def first? (hs : Headers) (name : String) : Option (List UInt8) :=
  (hs.find? fun h => h.name = name).map Header.value

/-- The first value of a name as plain text. -/
def text? (hs : Headers) (name : String) : Option (List Char) :=
  (first? hs name).bind Header.valueChars?

/-- The headers with `value` as the only value of `name`. -/
def set (hs : Headers) (name : String) (value : List UInt8) : Headers :=
  (hs.filter fun h => h.name ≠ name) ++ [⟨name, value⟩]

end Headers
end Http
end RunnerGateway
