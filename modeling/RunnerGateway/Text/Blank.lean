/-!
# Blank characters

The characters that separate words in any script, and the removal of blanks and of other unwanted
characters from the two ends of a text.  Everything here works on lists of characters, so that the
laws of `dropWhile` and `reverse` apply; `String` enters only in the wrappers.
-/

namespace RunnerGateway
namespace Text

/-- A character with the Unicode property `White_Space`. -/
def isBlank (c : Char) : Bool :=
  let n := c.toNat
  (9 ≤ n && n ≤ 13) || n == 0x20 || n == 0x85 || n == 0xA0 || n == 0x1680 ||
    (0x2000 ≤ n && n ≤ 0x200A) || n == 0x2028 || n == 0x2029 || n == 0x202F ||
    n == 0x205F || n == 0x3000

/-- The list without the longest run of elements satisfying `p` at its end. -/
def dropEndWhile (p : α → Bool) (xs : List α) : List α :=
  (xs.reverse.dropWhile p).reverse

/-- The characters without blanks at either end. -/
def trimBlank (cs : List Char) : List Char :=
  dropEndWhile isBlank (cs.dropWhile isBlank)

/-- The text without blanks at either end. -/
def trim (s : String) : String :=
  String.ofList (trimBlank s.toList)

/-- What follows `start` in `cs`, if `cs` starts with it. -/
def after? (start cs : List Char) : Option (List Char) :=
  match start, cs with
  | [], cs => some cs
  | _ :: _, [] => none
  | a :: start, c :: cs => if a = c then after? start cs else none

/-- The pieces of `cs` between the occurrences of `sep`; there is always at least one. -/
def pieces (sep : Char) : List Char → List (List Char)
  | [] => [[]]
  | c :: cs =>
    if c = sep then [] :: pieces sep cs
    else
      match pieces sep cs with
      | [] => [[c]]
      | piece :: rest => (c :: piece) :: rest

/-- An ASCII capital becomes small, and every other character stays. -/
def lowerAscii (c : Char) : Char :=
  if 'A' ≤ c ∧ c ≤ 'Z' then Char.ofNat (c.toNat + 32) else c

end Text
end RunnerGateway
