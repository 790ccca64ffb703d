import RunnerGateway.Text.Composed
import RunnerGateway.Url.Direction
import RunnerGateway.Url.DomainTable
import RunnerGateway.Url.Punycode

/-!
# Domain names

A domain name in any script is brought into its ASCII form: every character is mapped, letters and
their marks are composed, and each label that is not ASCII is spelled in Punycode behind `xn--`.  A
label that comes in that spelling must spell what mapping would have left alone.  Some ASCII
characters can be part of no domain name, and labels must agree on the direction of writing; hyphens
and empty labels are allowed anywhere.
-/

namespace RunnerGateway
namespace Url

/-- The characters between letters that ask for joined forms, or for forms that are not joined. -/
def isJoiner (c : Char) : Bool :=
  c.toNat == 0x200C || c.toNat == 0x200D

/-- A control, format, private or unassigned character, or one that stands in place of another. -/
def isUnnameable (c : Char) : Bool :=
  0x7F < c.toNat && (Text.isUnprintable c && !Text.isMark c && !isJoiner c ||
    c.toNat == 0xFFFC || c.toNat == 0xFFFD)

/-- What a character beyond ASCII becomes by the table of ranges. -/
def inRange? (n : Nat) : Option Nat :=
  mappedRanges.toList.findSome? fun (first, last, step, target) =>
    if first ≤ n ∧ n ≤ last ∧ (n - first) % step = 0 then some (target + (n - first)) else none

/-- What a character becomes by one of the tables of runs. -/
def inRunOf? (table : Array (Nat × List Nat)) (n : Nat) : Option Nat :=
  table.toList.findSome? fun (first, targets) =>
    if first ≤ n then targets[n - first]? else none

/-- What a character beyond ASCII becomes by the tables of runs. -/
def inRun? (n : Nat) : Option Nat :=
  (inRunOf? mappedRuns n).or (inRunOf? ideographRuns n)

/-- What a character becomes by one of the tables of expansions. -/
def expandedBy? (table : Array (Nat × List Nat)) (n : Nat) : Option (List Nat) :=
  table.toList.findSome? fun (source, target) => if source = n then some target else none

/-- What a character beyond ASCII becomes if it becomes several. -/
def expandedTo? (n : Nat) : Option (List Nat) :=
  (expandedBy? otherExpansions n).or
    ((expandedBy? squaredExpansions n).or (expandedBy? joinedExpansions n))

/-- What a character beyond ASCII becomes, if it does not stand for itself. -/
def mappedTo? (n : Nat) : Option (List Nat) :=
  if Text.inRanges omittedRanges n omittedRanges.size 0 omittedRanges.size then some []
  else (((inRange? n).or (inRun? n)).map fun target => [target]).or (expandedTo? n)

/-- What a character becomes in a domain name, unless it cannot be part of one. -/
def mapChar? (c : Char) : Option (List Char) :=
  if c.toNat < 0x80 then some [Text.lowerAscii c]
  else
    match mappedTo? c.toNat with
    | some target => some (target.map Char.ofNat)
    | none => if isUnnameable c then none else some [c]

/-- The characters of a domain name after mapping and composition. -/
def normalizeName? (cs : List Char) : Option (List Char) :=
  (cs.mapM mapChar?).map fun mapped => Text.compose mapped.flatten

/-- Every joiner stands behind a sign that takes the vowel from a letter; `before` is the character
in front of the list. -/
def joinersFollow (before : Char) : List Char → Bool
  | [] => true
  | c :: cs =>
    (!isJoiner c || Text.markClass before == Text.vowelKiller) && joinersFollow c cs

/-- A label that may be spelled in Punycode: it starts with neither a mark nor a joiner, and its
joiners stand where they may. -/
def isLabel : List Char → Bool
  | [] => false
  | c :: cs => !Text.isMark c && !isJoiner c && joinersFollow c cs

/-- A label of a domain name. -/
structure Label where
  /-- The characters that are meant. -/
  meant : List Char
  /-- The ASCII form. -/
  ascii : List Char

/-- The label of mapped and composed characters. -/
def Label.ofChars? (label : List Char) : Option Label :=
  match Text.after? ['x', 'n', '-', '-'] label with
  | some spelling =>
    match Punycode.decode? spelling with
    | none => none
    | some name =>
      if isLabel name ∧ name.any (fun c => 0x7F < c.toNat) ∧ normalizeName? name = some name ∧
          Punycode.encode name = spelling then some ⟨name, label⟩
      else none
  | none =>
    if label.all fun c => c.toNat < 0x80 then some ⟨label, label⟩
    else if isLabel label then some ⟨label, ['x', 'n', '-', '-'] ++ Punycode.encode label⟩
    else none

/-- An ASCII character that can be part of no domain name. -/
def isForbiddenInName (c : Char) : Bool :=
  c.toNat ≤ 0x20 || c.toNat == 0x7F || c == '#' || c == '%' || c == '/' || c == ':' || c == '<' ||
    c == '>' || c == '?' || c == '@' || c == '[' || c == '\\' || c == ']' || c == '^' || c == '|'

/-- The ASCII form of a domain name. -/
def domainName? (cs : List Char) : Option (List Char) :=
  match normalizeName? cs with
  | none => none
  | some name =>
    match (Text.pieces '.' name).mapM Label.ofChars? with
    | none => none
    | some labels =>
      let text := List.intercalate ['.'] (labels.map Label.ascii)
      if text.any isForbiddenInName || !labelsAgree (labels.map Label.meant) then none
      else some text

end Url
end RunnerGateway
