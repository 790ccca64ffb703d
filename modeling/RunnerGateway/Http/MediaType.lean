import RunnerGateway.Text.Blank

/-!
# Media types

The type of a body, as a header names it: a type, a slash, a subtype which may have a suffix after
its last `+`, and parameters after semicolons.  Capitals do not matter, and parameters only have to
be well formed.
-/

namespace RunnerGateway
namespace Http

/-- A media type in small letters, without its parameters. -/
structure MediaType where
  kind : List Char
  subtype : List Char
  suffix : Option (List Char)
  deriving DecidableEq, Repr

namespace MediaType

/-- A character of a name or of a value that is not quoted. -/
def isTokenChar (c : Char) : Bool :=
  ('a' ≤ c && c ≤ 'z') || ('A' ≤ c && c ≤ 'Z') || ('0' ≤ c && c ≤ '9') ||
    "!#$%&'*+-.^_|~".toList.contains c || c = '\x60'

/-- A character of a quoted value. -/
def isQuotedChar (c : Char) : Bool :=
  31 < c.toNat && c.toNat ≠ 127

/-- The list behind a quoted value: nothing, or a semicolon and what follows it. -/
def afterQuoted? (cs : List Char) : Option (List Char) :=
  match cs.dropWhile fun c => c = ' ' with
  | [] => some []
  | ';' :: rest => some rest
  | _ => none

/-- The list behind the closing quote of a value of which nothing was read yet; a quote at the very
beginning belongs to the value. -/
def afterQuote? : List Char → Option (List Char)
  | [] => none
  | c :: rest =>
    if isQuotedChar c then
      match rest.dropWhile fun c => isQuotedChar c && c ≠ '"' with
      | '"' :: rest => afterQuoted? rest
      | _ => none
    else none

/-- The list behind the value of a parameter, if the value is well formed. -/
def afterValue? : List Char → Option (List Char)
  | '"' :: rest => afterQuote? rest
  | cs =>
    match cs, cs.dropWhile isTokenChar with
    | _, [] => some []
    | c :: _, ';' :: rest => if isTokenChar c then some rest else none
    | _, _ => none

/-- The list behind a parameter, if it is well formed. -/
def afterParameter? (cs : List Char) : Option (List Char) :=
  match cs, cs.dropWhile isTokenChar with
  | c :: _, '=' :: value => if isTokenChar c then afterValue? value else none
  | _, _ => none

/-- The parameters behind the first semicolon are well formed; blanks may stand before each. -/
def parametersOk (fuel : Nat) (cs : List Char) : Bool :=
  match fuel, cs.dropWhile fun c => c = ' ' with
  | _, [] => true
  | 0, _ => false
  | fuel + 1, cs =>
    match afterParameter? cs with
    | some rest => parametersOk fuel rest
    | none => false

/-- What stands before and after the last `+`, unless this is the first character. -/
def splitSuffix (subtype : List Char) : List Char × Option (List Char) :=
  let back := subtype.reverse
  match back.dropWhile fun c => c ≠ '+' with
  | [] => (subtype, none)
  | [_] => (subtype, none)
  | _ :: start => (start.reverse, some (back.takeWhile fun c => c ≠ '+').reverse)

/-- The media type of a text. -/
def parse? (text : List Char) : Option MediaType :=
  let kind := text.takeWhile isTokenChar
  match text.dropWhile isTokenChar with
  | '/' :: rest =>
    let subtype := rest.takeWhile isTokenChar
    let ok :=
      match rest.dropWhile isTokenChar with
      | [] => true
      | ';' :: parameters => !subtype.isEmpty && parametersOk parameters.length parameters
      | _ => false
    if kind.isEmpty || !ok then none
    else
      let (subtype, suffix) := splitSuffix (subtype.map Text.lowerAscii)
      some { kind := kind.map Text.lowerAscii, subtype, suffix }
  | _ => none

/-- The media type announces JSON. -/
def isJson (m : MediaType) : Bool :=
  m.kind = "application".toList &&
    (m.subtype = "json".toList || m.suffix = some "json".toList)

end MediaType
end Http
end RunnerGateway
