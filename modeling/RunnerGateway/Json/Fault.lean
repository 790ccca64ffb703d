import RunnerGateway.Json.Number
import RunnerGateway.Text.Quoted

/-!
# What can be wrong with JSON

The causes for which a text is no JSON, or a value does not have the wanted shape, each with its
words.  A `Fault` adds where in a text the cause was met: the bytes not yet read, and the way from
the whole value to the part being read.
-/

namespace RunnerGateway
namespace Json

/-- A text as its UTF-8 bytes. -/
abbrev Bytes := List UInt8

/-- What a value is, where another kind was wanted. -/
inductive Found
  | null
  | bool (b : Bool)
  | integer (n : Int)
  | number (x : Double)
  | string (s : String)
  | sequence
  | map
  deriving DecidableEq, Repr

/-- The value found, in words. -/
def Found.text : Found → String
  | .null => "null"
  | .bool b => "boolean `" ++ (if b then "true" else "false") ++ "`"
  | .integer n => "integer `" ++ Text.signedNumeral n ++ "`"
  | .number x => "floating point `" ++ doubleText x ++ "`"
  | .string s => "string " ++ Text.quoted s
  | .sequence => "sequence"
  | .map => "map"

/-- Why a text is no JSON. -/
inductive Malformed
  | eofList
  | eofObject
  | eofString
  | eofValue
  | expectedColon
  | expectedListEnd
  | expectedObjectEnd
  | expectedIdent
  | expectedValue
  | invalidEscape
  | invalidNumber
  | numberOutOfRange
  | invalidCodePoint
  | controlCharacter
  | keyNotString
  | loneSurrogate
  | trailingComma
  | trailingCharacters
  | unfinishedEscape
  | tooDeep
  deriving DecidableEq, Repr

/-- What is wrong with the text, in words. -/
def Malformed.message : Malformed → String
  | .eofList => "EOF while parsing a list"
  | .eofObject => "EOF while parsing an object"
  | .eofString => "EOF while parsing a string"
  | .eofValue => "EOF while parsing a value"
  | .expectedColon => "expected `:`"
  | .expectedListEnd => "expected `,` or `]`"
  | .expectedObjectEnd => "expected `,` or `\x7d`"
  | .expectedIdent => "expected ident"
  | .expectedValue => "expected value"
  | .invalidEscape => "invalid escape"
  | .invalidNumber => "invalid number"
  | .numberOutOfRange => "number out of range"
  | .invalidCodePoint => "invalid unicode code point"
  | .controlCharacter => "control character (\\u0000-\\u001F) found while parsing a string"
  | .keyNotString => "key must be a string"
  | .loneSurrogate => "lone leading surrogate in hex escape"
  | .trailingComma => "trailing comma"
  | .trailingCharacters => "trailing characters"
  | .unfinishedEscape => "unexpected end of hex escape"
  | .tooDeep => "recursion limit exceeded"

/-- Why a text or a value is refused. -/
inductive Cause
  | malformed (why : Malformed)
  | invalidType (found : Found) (expected : String)
  | invalidValue (found : Found) (expected : String)
  | invalidLength (length : Nat) (expected : String)
  | missingField (name : String)
  | duplicateField (name : String)
  | noVariant (choice : String)
  deriving DecidableEq, Repr

/-- Why the text or value is refused, in words. -/
def Cause.message : Cause → String
  | .malformed why => why.message
  | .invalidType found expected => "invalid type: " ++ found.text ++ ", expected " ++ expected
  | .invalidValue found expected => "invalid value: " ++ found.text ++ ", expected " ++ expected
  | .invalidLength length expected =>
    "invalid length " ++ Text.numeral length ++ ", expected " ++ expected
  | .missingField name => "missing field `" ++ name ++ "`"
  | .duplicateField name => "duplicate field `" ++ name ++ "`"
  | .noVariant choice => "data did not match any variant of untagged enum " ++ choice

/-- One step from a value to a part of it. -/
inductive Step
  | index (n : Nat)
  | key (k : String)
  deriving DecidableEq, Repr

/-- The way to a part of a value, as in `a.b[2].c`. -/
def pathText (path : List Step) : String :=
  match path with
  | [] => ""
  | first :: rest =>
    let start :=
      match first with
      | .index n => "[" ++ Text.numeral n ++ "]"
      | .key k => k
    rest.foldl
      (fun text step =>
        match step with
        | .index n => text ++ "[" ++ Text.numeral n ++ "]"
        | .key k => text ++ "." ++ k)
      start

/-- A cause met while reading a text: the bytes not yet read when it was met, whether they are its
final place, and the part of the value that was being read. -/
structure Fault where
  cause : Cause
  rest : Bytes
  placed : Bool
  path : List Step

namespace Fault

/-- The text is no JSON; the place is before the bytes `rest`. -/
def here (why : Malformed) (rest : Bytes) : Fault :=
  ⟨.malformed why, rest, true, []⟩

/-- The text is no JSON; the place is after the first of the bytes `rest`, if there is one. -/
def next (why : Malformed) (rest : Bytes) : Fault :=
  here why rest.tail

/-- A value of the wrong shape; the place is before the bytes `rest`. -/
def refused (cause : Cause) (rest : Bytes) : Fault :=
  ⟨cause, rest, true, []⟩

/-- A value of the wrong shape, whose place is the end of the list or object around it. -/
def unplaced (cause : Cause) (rest : Bytes) : Fault :=
  ⟨cause, rest, false, []⟩

/-- The same fault, seen from one level further out. -/
def within (step : Step) (f : Fault) : Fault :=
  { f with path := step :: f.path }

end Fault

/-- A place in a text: the line, from one, and the number of bytes before it on that line. -/
structure Place where
  line : Nat
  column : Nat
  deriving DecidableEq, Repr

/-- The place after one more byte. -/
def Place.advance (p : Place) (b : UInt8) : Place :=
  if b = 0x0A then ⟨p.line + 1, 0⟩ else ⟨p.line, p.column + 1⟩

/-- The place after the bytes `done`. -/
def Place.after (done : Bytes) : Place :=
  done.foldl Place.advance ⟨1, 0⟩

/-- The cause of a fault in `text`, and its place if it has one. -/
def Fault.message (text : Bytes) (f : Fault) : String :=
  if f.placed then
    let place := Place.after (text.take (text.length - f.rest.length))
    f.cause.message ++ " at line " ++ Text.numeral place.line ++
      " column " ++ Text.numeral place.column
  else f.cause.message

end Json
end RunnerGateway
