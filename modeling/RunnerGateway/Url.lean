import RunnerGateway.Url.Address
import RunnerGateway.Url.Domain
import RunnerGateway.Url.Percent

/-!
# URLs

Absolute URLs, read as browsers read them: control characters and blanks around the text and line
breaks inside it do not count, a special scheme takes a backslash for a slash and any number of
slashes before its host, the host is brought into its normal form, and a port that is the scheme's
own is dropped.  Paths of schemes with a host are resolved segment by segment.
-/

namespace RunnerGateway

/-- An absolute URL in normal form.  `host` is written as it appears in the URL; `path` starts with
a slash if there is a host. -/
structure Url where
  scheme : String
  username : String
  password : String
  host : Option String
  port : Option Nat
  path : String
  query : Option String
  fragment : Option String
  deriving DecidableEq, Repr

namespace Url

/-- A scheme whose URLs have a host and take backslashes for slashes. -/
def isSpecial (scheme : String) : Bool :=
  ["http", "https", "ws", "wss", "ftp", "file"].contains scheme

/-- The port that a URL of the scheme need not name. -/
def defaultPort? (scheme : String) : Option Nat :=
  if scheme = "http" ∨ scheme = "ws" then some 80
  else if scheme = "https" ∨ scheme = "wss" then some 443
  else if scheme = "ftp" then some 21
  else none

/-- A letter of ASCII. -/
def isLetter (c : Char) : Bool :=
  ('a' ≤ c && c ≤ 'z') || ('A' ≤ c && c ≤ 'Z')

/-- A character that a scheme may have after its first letter. -/
def isSchemeChar (c : Char) : Bool :=
  isLetter c || (Text.digit? c).isSome || c == '+' || c == '-' || c == '.'

/-- The characters that count in a URL. -/
def significant (text : String) : List Char :=
  let outer (c : Char) : Bool := c.toNat ≤ 0x20
  (Text.dropEndWhile outer (text.toList.dropWhile outer)).filter fun c =>
    c ≠ '\t' && c ≠ '\n' && c ≠ '\r'

/-- The scheme, in small letters, and what follows its colon. -/
def splitScheme? (cs : List Char) : Option (String × List Char) :=
  match cs.head?, cs.dropWhile isSchemeChar with
  | some c, ':' :: rest =>
    if isLetter c then
      some (String.ofList ((cs.takeWhile isSchemeChar).map Text.lowerAscii), rest)
    else none
  | _, _ => none

/-- A slash, or a backslash of a special scheme. -/
def isSlash (special : Bool) (c : Char) : Bool :=
  c == '/' || (special && c == '\\')

/-- A character that ends the part of a URL before its path. -/
def endsAuthority (special : Bool) (c : Char) : Bool :=
  isSlash special c || c == '?' || c == '#'

/-- The text before the last `@` and the text after it, if there is one. -/
def splitUser? (cs : List Char) : Option (List Char × List Char) :=
  if cs.contains '@' then
    let after := (cs.reverse.takeWhile fun c => c ≠ '@').reverse
    some (cs.take (cs.length - after.length - 1), after)
  else none

/-- The host before its port: up to the first colon outside square brackets. -/
def splitHost : (bracketed : Bool) → List Char → List Char × List Char
  | _, [] => ([], [])
  | bracketed, c :: cs =>
    if c = ':' ∧ bracketed = false then ([], c :: cs)
    else
      let bracketed := if c = '[' then true else if c = ']' then false else bracketed
      let (host, rest) := splitHost bracketed cs
      (c :: host, rest)

/-- The text between square brackets, if it is that. -/
def bracketed? : List Char → Option (List Char)
  | '[' :: cs =>
    match cs.reverse with
    | ']' :: inner => some inner.reverse
    | _ => none
  | _ => none

/-- The text of escaped bytes. -/
def decodedText? (cs : List Char) : Option (List Char) :=
  (String.fromUTF8? (percentDecode (String.ofList cs).toUTF8.toList).toByteArray).map String.toList

/-- The normal form of the host of a special scheme. -/
def specialHost? (cs : List Char) : Option String :=
  match cs with
  | '[' :: _ => (bracketed? cs).bind fun inner => (readAddress6? inner).map address6Text
  | cs =>
    match (decodedText? cs).bind domainName? with
    | none => none
    | some [] => none
    | some name =>
      if endsInNumber name then (readAddress4? name).map address4Text
      else some (String.ofList name)

/-- A character that no host can have, of whatever scheme. -/
def isForbiddenInHost (c : Char) : Bool :=
  c.toNat == 0 || c == '\t' || c == '\n' || c == '\r' || c == ' ' || c == '#' || c == '/' ||
    c == ':' || c == '<' || c == '>' || c == '?' || c == '@' || c == '[' || c == '\\' ||
    c == ']' || c == '^' || c == '|'

/-- The normal form of the host of a scheme that is not special. -/
def opaqueHost? (cs : List Char) : Option String :=
  match cs with
  | '[' :: _ => (bracketed? cs).bind fun inner => (readAddress6? inner).map address6Text
  | cs =>
    if cs.any isForbiddenInHost then none else some (String.ofList (percentEncode isControl cs))

/-- The port after a host; an empty one and the scheme's own count as none. -/
def readPort? (scheme : String) (cs : List Char) : Option (Option Nat) :=
  match cs with
  | [] => some none
  | [':'] => some none
  | ':' :: digits =>
    match Text.readDigits 65535 .tooLarge digits with
    | .ok port => some (if defaultPort? scheme = some port then none else some port)
    | .error _ => none
  | _ => none

/-- A segment that stands for the one it is in. -/
def isSingleDot (segment : List Char) : Bool :=
  ["." , "%2e"].contains (String.ofList (segment.map Text.lowerAscii))

/-- A segment that stands for the one before it. -/
def isDoubleDot (segment : List Char) : Bool :=
  ["..", ".%2e", "%2e.", "%2e%2e"].contains (String.ofList (segment.map Text.lowerAscii))

/-- Resolves the segments of a path; `done` holds the resolved ones, last first. -/
def resolveSegments : (done : List (List Char)) → List (List Char) → List (List Char)
  | done, [] => done.reverse
  | done, [last] =>
    if isDoubleDot last then (done.tail.reverse) ++ [[]]
    else if isSingleDot last then done.reverse ++ [[]]
    else done.reverse ++ [last]
  | done, segment :: rest =>
    if isDoubleDot segment then resolveSegments done.tail rest
    else if isSingleDot segment then resolveSegments done rest
    else resolveSegments (segment :: done) rest

/-- The path of a URL with a host in normal form. -/
def hierarchicalPath (special : Bool) (cs : List Char) : String :=
  let cs := if special then cs.map fun c => if c = '\\' then '/' else c else cs
  match cs with
  | [] => if special then "/" else ""
  | c :: rest =>
    let rest := if c = '/' then rest else c :: rest
    let segments := (Text.pieces '/' rest).map (percentEncode escapedInPath)
    String.ofList ('/' :: List.intercalate ['/'] (resolveSegments [] segments))

/-- The query and the fragment at the end of a URL, with what stands before them. -/
def splitEnd (cs : List Char) : List Char × Option (List Char) × Option (List Char) :=
  let start := cs.takeWhile fun c => c ≠ '#'
  let fragment :=
    match cs.dropWhile fun c => c ≠ '#' with
    | [] => none
    | _ :: rest => some rest
  let path := start.takeWhile fun c => c ≠ '?'
  match start.dropWhile fun c => c ≠ '?' with
  | [] => (path, none, fragment)
  | _ :: query => (path, some query, fragment)

/-- The URL of a scheme with the given user, host and port, and the text after them. -/
def assemble (scheme : String) (user : List Char) (host : Option String) (port : Option Nat)
    (opaquePath : Bool) (rest : List Char) : Url :=
  let (path, query, fragment) := splitEnd rest
  let special := isSpecial scheme
  let name := user.takeWhile fun c => c ≠ ':'
  let word := (user.dropWhile fun c => c ≠ ':').drop 1
  { scheme := scheme
    username := String.ofList (percentEncode escapedInUser name)
    password := String.ofList (percentEncode escapedInUser word)
    host := host
    port := port
    path :=
      if opaquePath then String.ofList (percentEncode isControl path)
      else hierarchicalPath special path
    query := query.map fun q => String.ofList (percentEncode (escapedInQuery special) q)
    fragment := fragment.map fun f => String.ofList (percentEncode escapedInFragment f) }

/-- The URL after the two slashes that announce a host.  A backslash ends a port in every scheme. -/
def readAuthority? (scheme : String) (cs : List Char) : Option Url :=
  let special := isSpecial scheme
  let authority := cs.takeWhile fun c => !endsAuthority special c
  let (user, place) := (splitUser? authority).getD ([], authority)
  let (host, after) := splitHost false place
  let port := after.takeWhile fun c => c ≠ '\\'
  let rest := after.drop port.length ++ cs.drop authority.length
  if host.isEmpty ∧ (special ∨ !port.isEmpty ∨ authority.contains '@') then none
  else
    match (if special then specialHost? host else opaqueHost? host), readPort? scheme port with
    | some name, some port =>
      let name := if name = "" then none else some name
      some (assemble scheme user name port false rest)
    | _, _ => none

/-- A URL of the scheme `file` after its colon; it has neither user nor port. -/
def readFile? (cs : List Char) : Option Url :=
  match cs with
  | a :: b :: rest =>
    if isSlash true a && isSlash true b then
      let host := rest.takeWhile fun c => !endsAuthority true c
      let path := rest.dropWhile fun c => !endsAuthority true c
      if host.isEmpty then some (assemble "file" [] none none false path)
      else
        match specialHost? host with
        | none => none
        | some name =>
          some (assemble "file" [] (if name = "localhost" then none else some name) none false path)
    else some (assemble "file" [] none none false cs)
  | cs => some (assemble "file" [] none none false cs)

/-- The URL that a text stands for. -/
def parse? (text : String) : Option Url :=
  match splitScheme? (significant text) with
  | none => none
  | some (scheme, rest) =>
    if scheme = "file" then readFile? rest
    else if isSpecial scheme then readAuthority? scheme (rest.dropWhile (isSlash true))
    else
      match rest with
      | '/' :: '/' :: rest => readAuthority? scheme rest
      | '/' :: _ => some (assemble scheme [] none none false rest)
      | rest => some (assemble scheme [] none none true rest)

/-- The port as it is written after the host. -/
def portText (u : Url) : String :=
  match u.port with
  | none => ""
  | some port => ":" ++ Text.numeral port

/-- The host and port of a URL with a host. -/
def authority? (u : Url) : Option String :=
  u.host.map fun host => host ++ u.portText

/-- The scheme, host and port of a URL with a host. -/
def origin? (u : Url) : Option String :=
  u.authority?.map fun authority => u.scheme ++ "://" ++ authority

/-- The origin of the URL that a text stands for. -/
def originOf? (text : String) : Option String :=
  (parse? text).bind origin?

/-- The URL as it is written, without user name and password. -/
def toText (u : Url) : String :=
  let start :=
    match u.authority? with
    | some authority => u.scheme ++ "://" ++ authority
    | none => u.scheme ++ ":" ++ (if u.scheme = "file" then "//" else "")
  start ++ u.path ++ (u.query.map fun q => "?" ++ q).getD "" ++
    (u.fragment.map fun f => "#" ++ f).getD ""

end Url
end RunnerGateway
