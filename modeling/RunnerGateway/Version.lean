import RunnerGateway.Text.Blank
import RunnerGateway.Text.Numeral

/-!
# Versions

Versions are compared by the numbers between their dots.  One `v` in front does not count, nor does
anything from the first hyphen on; a version with a part that is no 64-bit numeral has no key and
takes no part in comparisons.
-/

namespace RunnerGateway
namespace Version

/-- The version without one `v` in front and without anything from the first hyphen on. -/
def core (version : List Char) : List Char :=
  let rest :=
    match version with
    | 'v' :: rest => rest
    | version => version
  rest.takeWhile fun c => c ≠ '-'

/-- The number that one part of a version denotes. -/
def part? (digits : List Char) : Option Nat :=
  (Text.readNat Text.maxWord digits).toOption

/-- The numbers by which a version is compared. -/
def key? (version : String) : Option (List Nat) :=
  (Text.pieces '.' (core version.toList)).mapM part?

/-- The list comes before the other one: at the first difference it has the smaller number, or it
ends there. -/
def before : List Nat → List Nat → Bool
  | _, [] => false
  | [], _ :: _ => true
  | a :: as, b :: bs => a < b || (a = b && before as bs)

/-- The first of the keyed elements that no other one comes before. -/
def lowestKeyed : List (List Nat × α) → Option (List Nat × α)
  | [] => none
  | x :: rest =>
    match lowestKeyed rest with
    | none => some x
    | some y => if before y.1 x.1 then some y else some x

/-- The lowest version; those without a key do not count, and of equal ones the first is taken. -/
def lowest? (versions : List String) : Option String :=
  (lowestKeyed (versions.filterMap fun version =>
    (key? version).map fun key => (key, version))).map Prod.snd

end Version
end RunnerGateway
