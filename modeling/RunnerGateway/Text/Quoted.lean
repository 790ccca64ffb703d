import RunnerGateway.Text.Unprintable

/-!
# Quoted text in messages

A message that shows a text puts it between double quotes and spells every character that could be
misread: a quote, a backslash, the common controls by a letter, and all else that has no shape of
its own by its number.
-/

namespace RunnerGateway
namespace Text

/-- The digits of a number in base sixteen, with small letters. -/
def hexNumeral (n : Nat) : List Char :=
  Nat.toDigits 16 n

/-- One character as it stands between quotes in a message. -/
def quoteChar (c : Char) : List Char :=
  if c = '"' then ['\\', '"']
  else if c = '\\' then ['\\', '\\']
  else if c = '\n' then ['\\', 'n']
  else if c = '\r' then ['\\', 'r']
  else if c = '\t' then ['\\', 't']
  else if c.toNat = 0 then ['\\', '0']
  else if isUnprintable c then
    ['\\', 'u', '\x7b'] ++ hexNumeral c.toNat ++ ['\x7d']
  else [c]

/-- The text between double quotes, with every misleading character spelled out. -/
def quoted (s : String) : String :=
  String.ofList ('"' :: (s.toList.flatMap quoteChar ++ ['"']))

end Text
end RunnerGateway
