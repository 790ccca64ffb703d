import RunnerGateway.Json.Basic
import RunnerGateway.Json.Number
import RunnerGateway.Text.Numeral

/-!
# Compact JSON text

The text of a value without any blanks.  Members stand in the order of their list, quotes and
backslashes are escaped, the control characters with a letter of their own take it, and the other
ones are written by number.
-/

namespace RunnerGateway
namespace Json

/-- A digit of base sixteen, small. -/
def hexDigit (n : Nat) : Char :=
  Nat.digitChar (n % 16)

/-- One character inside a JSON string. -/
def escapeChar (c : Char) : List Char :=
  if c = '"' then ['\\', '"']
  else if c = '\\' then ['\\', '\\']
  else if c.toNat = 0x08 then ['\\', 'b']
  else if c.toNat = 0x0C then ['\\', 'f']
  else if c = '\n' then ['\\', 'n']
  else if c = '\r' then ['\\', 'r']
  else if c = '\t' then ['\\', 't']
  else if c.toNat < 0x20 then
    ['\\', 'u', '0', '0', hexDigit (c.toNat / 16), hexDigit c.toNat]
  else [c]

/-- A JSON string, with its quotes. -/
def stringChars (s : String) : List Char :=
  '"' :: (s.toList.flatMap escapeChar ++ ['"'])

mutual

/-- The characters of a value's compact text. -/
def chars : Json → List Char
  | .null => ['n', 'u', 'l', 'l']
  | .bool true => ['t', 'r', 'u', 'e']
  | .bool false => ['f', 'a', 'l', 's', 'e']
  | .int n => (Text.signedNumeral n).toList
  | .float x => (doubleText x).toList
  | .str s => stringChars s
  | .arr items => '[' :: itemChars items
  | .obj members => '\x7b' :: memberChars members

/-- The items of an array from the first one on, and the closing bracket. -/
def itemChars : List Json → List Char
  | [] => [']']
  | v :: rest => chars v ++ moreItemChars rest

/-- The items of an array after the first one, and the closing bracket. -/
def moreItemChars : List Json → List Char
  | [] => [']']
  | v :: rest => ',' :: (chars v ++ moreItemChars rest)

/-- The members of an object from the first one on, and the closing brace. -/
def memberChars : List (String × Json) → List Char
  | [] => ['\x7d']
  | (k, v) :: rest => stringChars k ++ ':' :: (chars v ++ moreMemberChars rest)

/-- The members of an object after the first one, and the closing brace. -/
def moreMemberChars : List (String × Json) → List Char
  | [] => ['\x7d']
  | (k, v) :: rest => ',' :: (stringChars k ++ ':' :: (chars v ++ moreMemberChars rest))

end

/-- The compact text of a value. -/
def render (v : Json) : String :=
  String.ofList v.chars

end Json
end RunnerGateway
