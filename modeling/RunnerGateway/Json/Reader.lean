import RunnerGateway.Json.Shape
import RunnerGateway.Json.Token

/-!
# Reading JSON text of a given shape

`Schema.read` reads a value and holds it against a shape in one pass, so that a fault is told with
its place in the text, and the first fault in the text is the one that is told.  Lists and objects
may be nested 127 deep.  Of two members with one key, an object keeps the later one, while a record
refuses a field that comes twice.  Members that a record ignores are skipped without a limit on
their depth.

A fault without a place of its own is placed at the end of the list or object in which it was met,
after that end has been looked for.
-/

namespace RunnerGateway
namespace Json

/-- The two kinds of brackets. -/
inductive Bracket
  | square
  | brace
  deriving DecidableEq, Repr

/-- The byte that closes a bracket. -/
def Bracket.closing : Bracket → UInt8
  | .square => ascii ']'
  | .brace => ascii '\x7d'

/-- The text ends inside this bracket. -/
def Bracket.unfinished : Bracket → Malformed
  | .square => .eofList
  | .brace => .eofObject

/-- There is neither a comma nor the end of this bracket. -/
def Bracket.unseparated : Bracket → Malformed
  | .square => .expectedListEnd
  | .brace => .expectedObjectEnd

/-- The end of a bracket, after its content. -/
def Bracket.close (k : Bracket) (b : Bytes) : Except Fault Bytes :=
  match skipSpace b with
  | [] => .error (.here k.unfinished [])
  | c :: rest =>
    if c = k.closing then .ok rest
    else if c = ascii ',' then
      match k with
      | .brace => .error (.next .trailingComma (c :: rest))
      | .square =>
        match skipSpace rest with
        | [] => .error (.here .trailingCharacters [])
        | d :: rest =>
          if d = k.closing then .error (.next .trailingComma (d :: rest))
          else .error (.next .trailingCharacters (d :: rest))
    else .error (.next .trailingCharacters (c :: rest))

/-- The bytes left after looking for the end of a bracket. -/
def Bracket.leave (k : Bracket) (b : Bytes) : Bytes :=
  match skipSpace b with
  | [] => []
  | c :: rest =>
    if c = k.closing then rest
    else if c = ascii ',' ∧ k = .square then skipSpace rest
    else c :: rest

/-- Places a fault that has no place yet after the end of the bracket. -/
def Bracket.place (k : Bracket) (f : Fault) : Fault :=
  if f.placed then f else { f with rest := k.leave f.rest, placed := true }

/-- Reads the content of a bracket and its end. -/
def Bracket.around (k : Bracket) (content : Result α) : Result α :=
  match content with
  | .error f => .error (k.place f)
  | .ok (a, b) => (k.close b).map fun b => (a, b)

/-! ## Lists and objects -/

/-- The bytes of the next item of a list, or `none` at the end of the list, which is left. -/
def nextItem? (first : Bool) (b : Bytes) : Except Fault (Option Bytes) :=
  match skipSpace b with
  | [] => .error (.next .eofList [])
  | c :: rest =>
    if c = ascii ']' then .ok none
    else if first then .ok (some (c :: rest))
    else if c = ascii ',' then
      match skipSpace rest with
      | [] => .error (.next .eofValue [])
      | d :: rest =>
        if d = ascii ']' then .error (.next .trailingComma (d :: rest))
        else .ok (some (d :: rest))
    else .error (.next .expectedListEnd (c :: rest))

/-- The items of a list up to its end, read one by one; `done` holds those already read, last
first, and the bytes given back start with the closing bracket. -/
def readItems (item : Bytes → Result Json) : (fuel : Nat) → (done : List Json) → Bytes →
    Result (List Json)
  | 0, _, b => .error (.here .eofList b)
  | fuel + 1, done, b =>
    match nextItem? done.isEmpty b with
    | .error f => .error f
    | .ok none => .ok (done.reverse, skipSpace b)
    | .ok (some b) =>
      match item b with
      | .error f => .error (f.within (.index done.length))
      | .ok (v, b) => readItems item fuel (v :: done) b

/-- The key of the next member of an object and the bytes after it, or `none` at the end of the
object, which is left. -/
def nextKey? (fuel : Nat) (first : Bool) (b : Bytes) : Except Fault (Option (String × Bytes)) :=
  match skipSpace b with
  | [] => .error (.next .eofObject [])
  | c :: rest =>
    if c = ascii '\x7d' then .ok none
    else if first then
      if c = ascii '"' then (readString fuel rest).map some
      else .error (.next .keyNotString (c :: rest))
    else if c = ascii ',' then
      match skipSpace rest with
      | [] => .error (.next .eofValue [])
      | d :: rest =>
        if d = ascii '"' then (readString fuel rest).map some
        else if d = ascii '\x7d' then .error (.next .trailingComma (d :: rest))
        else .error (.next .keyNotString (d :: rest))
    else .error (.next .expectedObjectEnd (c :: rest))

/-- The colon after a key. -/
def readColon (b : Bytes) : Except Fault Bytes :=
  match skipSpace b with
  | [] => .error (.next .eofObject [])
  | c :: rest =>
    if c = ascii ':' then .ok rest else .error (.next .expectedColon (c :: rest))

/-- What a reader of members does with the member under a key, given the keys before it. -/
abbrev MemberReader :=
  (before : List (String × Json)) → (key : String) → Bytes → Result (Option Json)

/-- The members of an object up to its end; `done` holds those already read, last first, and the
bytes given back start with the closing bracket. -/
def readMembers (member : MemberReader) (strings : Nat) :
    (fuel : Nat) → (first : Bool) → (done : List (String × Json)) → Bytes →
    Result (List (String × Json))
  | 0, _, _, b => .error (.here .eofObject b)
  | fuel + 1, first, done, b =>
    match nextKey? strings first b with
    | .error f => .error f
    | .ok none => .ok (done.reverse, skipSpace b)
    | .ok (some (key, b)) =>
      match member done key b with
      | .error f => .error f
      | .ok (some v, b) => readMembers member strings fuel false ((key, v) :: done) b
      | .ok (none, b) => readMembers member strings fuel false done b

/-- A member whose value is read by `value`, with the key as a step of the path. -/
def plainMember (value : Bytes → Result Json) : MemberReader := fun _ key b =>
  match readColon b with
  | .error f => .error f
  | .ok b =>
    match value b with
    | .error f => .error (f.within (.key key))
    | .ok (v, b) => .ok (some v, b)

/-! ## Skipping -/

/-- The bytes after a string whose content does not matter. -/
def skipString : (fuel : Nat) → Bytes → Except Fault Bytes
  | 0, b => .error (.here .eofString b)
  | _ + 1, [] => .error (.here .eofString [])
  | fuel + 1, c :: b =>
    if c = ascii '"' then .ok b
    else if c = ascii '\\' then
      match b with
      | [] => .error (.here .eofString [])
      | e :: rest =>
        if (escapedByte? e).isSome then skipString fuel rest
        else if e = ascii 'u' then
          match readHex rest with
          | .error f => .error f
          | .ok (_, rest) => skipString fuel rest
        else .error (.here .invalidEscape rest)
    else if c < 0x20 then .error (.here .controlCharacter (c :: b))
    else skipString fuel b

/-- The bytes after an exponent, after its mark. -/
def skipExponent (b : Bytes) : Except Fault Bytes :=
  let unsigned :=
    match b with
    | [] => []
    | c :: rest => if c = ascii '+' ∨ c = ascii '-' then rest else c :: rest
  match unsigned with
  | [] => .error (.here .invalidNumber [])
  | c :: rest =>
    if (digit? c).isSome then .ok (skipDigits rest) else .error (.here .invalidNumber rest)

/-- The bytes after what may follow the point of a number. -/
def skipFraction (b : Bytes) : Except Fault Bytes :=
  match b with
  | [] => .error (.next .invalidNumber [])
  | c :: rest =>
    if (digit? c).isNone then .error (.next .invalidNumber (c :: rest))
    else
      match skipDigits rest with
      | [] => .ok []
      | d :: rest => if isExponentMark d then skipExponent rest else .ok (d :: rest)

/-- The bytes after what may follow the whole part of a number. -/
def skipNumberEnd (b : Bytes) : Except Fault Bytes :=
  match b with
  | [] => .ok []
  | c :: rest =>
    if c = ascii '.' then skipFraction rest
    else if isExponentMark c then skipExponent rest
    else .ok (c :: rest)

/-- The bytes after a number, after its sign. -/
def skipNumber (b : Bytes) : Except Fault Bytes :=
  match b with
  | [] => .error (.here .invalidNumber [])
  | c :: rest =>
    match digit? c with
    | none => .error (.here .invalidNumber rest)
    | some 0 =>
      match rest with
      | [] => .ok []
      | d :: more =>
        if (digit? d).isSome then .error (.next .invalidNumber (d :: more))
        else skipNumberEnd (d :: more)
    | some _ => skipNumberEnd (skipDigits rest)

mutual

/-- The bytes after a value whose content does not matter, inside the brackets of `stack`, and
after the brackets themselves. -/
def skipValue : (fuel : Nat) → (stack : List Bracket) → Bytes → Except Fault Bytes
  | 0, _, b => .error (.here .eofValue b)
  | fuel + 1, stack, b =>
    match skipSpace b with
    | [] => .error (.next .eofValue [])
    | c :: rest =>
      if c = ascii '[' then skipRest fuel (.square :: stack) false rest
      else if c = ascii '\x7b' then skipRest fuel (.brace :: stack) false rest
      else
        let scalar :=
          if c = ascii 'n' then readLetters ['u', 'l', 'l'] rest
          else if c = ascii 't' then readLetters ['r', 'u', 'e'] rest
          else if c = ascii 'f' then readLetters ['a', 'l', 's', 'e'] rest
          else if c = ascii '-' then skipNumber rest
          else if (digit? c).isSome then skipNumber (c :: rest)
          else if c = ascii '"' then skipString (fuel + 1) rest
          else .error (.next .expectedValue (c :: rest))
        match scalar with
        | .error f => .error f
        | .ok b => skipRest fuel stack true b

/-- The bytes after the brackets of `stack`, whose innermost one is open; a value may have been
read in it before, so that a comma may follow. -/
def skipRest : (fuel : Nat) → (stack : List Bracket) → (after : Bool) → Bytes → Except Fault Bytes
  | 0, _, _, b => .error (.here .eofValue b)
  | _ + 1, [], _, b => .ok b
  | fuel + 1, k :: stack, after, b =>
    match skipSpace b with
    | [] => .error (.next k.unfinished [])
    | c :: rest =>
      if c = ascii ',' ∧ after = true then skipItem fuel k stack rest
      else if c = k.closing then skipRest fuel stack true rest
      else if after then .error (.next k.unseparated (c :: rest))
      else skipItem fuel k stack (c :: rest)

/-- The bytes after the brackets of `stack` and the bracket `k` inside them, from an item or a
member on. -/
def skipItem : (fuel : Nat) → (k : Bracket) → (stack : List Bracket) → Bytes → Except Fault Bytes
  | 0, _, _, b => .error (.here .eofValue b)
  | fuel + 1, .square, stack, b => skipValue fuel (.square :: stack) b
  | fuel + 1, .brace, stack, b =>
    match skipSpace b with
    | [] => .error (.next .eofObject [])
    | c :: rest =>
      if c = ascii '"' then
        match skipString (fuel + 1) rest with
        | .error f => .error f
        | .ok b =>
          match readColon b with
          | .error f => .error f
          | .ok b => skipValue fuel (.brace :: stack) b
      else .error (.next .keyNotString (c :: rest))

end

/-! ## Shapes -/

/-- Refuses the value at the front of `b`; a scalar is read first, and the place is after it. -/
def refuse (fuel : Nat) (expected : String) (b : Bytes) : Fault :=
  match b with
  | [] => .next .eofValue []
  | c :: rest =>
    match readScalar? fuel c rest with
    | some (.error f) => f
    | some (.ok (v, b)) => .refused (.invalidType v.found expected) b
    | none =>
      if c = ascii '[' then .refused (.invalidType .sequence expected) (c :: rest)
      else if c = ascii '\x7b' then .refused (.invalidType .map expected) (c :: rest)
      else .next .expectedValue (c :: rest)

/-- The tag among the members of an object, in which `name` stands once. -/
def tagOfMembers? (members : List (String × Json)) : Option Json :=
  match members.filter fun m => m.1 = "name" with
  | [(_, .str s)] => some (.obj [("name", .str s)])
  | _ => none

/-- Reads the value of a field; an optional one may be `null`. -/
def readField (shape : Shape ρ → Bytes → Result Json) (f : Field ρ) (b : Bytes) : Result Json :=
  match f.presence, skipSpace b with
  | .optional, c :: rest =>
    if c = ascii 'n' then (readLetters ['u', 'l', 'l'] rest).map fun b => (.null, b)
    else shape f.shape (c :: rest)
  | _, b => shape f.shape b

/-- Reads the items of a list as the fields of a record. -/
def readPositions (σ : Schema ρ) (r : ρ) (shape : Shape ρ → Bytes → Result Json)
    (index : Nat) (done : Dict Json) : List (Field ρ) → Bytes → Result (Dict Json)
  | [], b => .ok (done, b)
  | f :: fs, b =>
    match nextItem? (index = 0) b with
    | .error fault => .error fault
    | .ok none =>
      match σ.shortage? r index (f :: fs) with
      | some cause => .error (.unplaced cause b)
      | none => .ok (done, b)
    | .ok (some b) =>
      match readField shape f b with
      | .error fault => .error fault
      | .ok (v, b) => readPositions σ r shape (index + 1) (Dict.insert done f.name v) fs b

/-- Reads a member of a record: a field by its shape, once, and another member as the record
says. -/
def recordMember (σ : Schema ρ) (r : ρ) (fuel : Nat) (shape : Shape ρ → Bytes → Result Json) :
    MemberReader := fun before key b =>
  match σ.field? r key with
  | some f =>
    if before.any fun m => m.1 = key then .error (.unplaced (.duplicateField key) b)
    else
      match readColon b with
      | .error fault => .error fault
      | .ok b => (readField shape f b).map fun (v, b) => (some v, b)
  | none =>
    match readColon b with
    | .error fault => .error fault
    | .ok b =>
      match σ.rest r with
      | .kept => (shape .any b).map fun (v, b) => (some v, b)
      | .ignored => (skipValue fuel [] b).map fun b => (none, b)

/-- Refuses the members of a record among which one is missing. -/
def checkMissing (σ : Schema ρ) (r : ρ) (members : Result (List (String × Json))) :
    Result (List (String × Json)) :=
  match members with
  | .error f => .error f
  | .ok (members, b) =>
    match σ.missing? r (Dict.keys members) with
    | some name => .error (.unplaced (.missingField name) b)
    | none => .ok (members, b)

/-- Reads a value of a shape; `levels` lists and objects may be nested in it. -/
def Schema.readValue (σ : Schema ρ) (fuel : Nat) : (levels : Nat) → Shape ρ → Bytes → Result Json
  | levels, shape, b =>
    match skipSpace b with
    | [] => .error (.next .eofValue [])
    | c :: rest =>
      match shape with
      | .bool =>
        if c = ascii 't' ∨ c = ascii 'f' then
          (readScalar? fuel c rest).getD (.error (.next .expectedValue (c :: rest)))
        else .error (refuse fuel "a boolean" (c :: rest))
      | .string =>
        if c = ascii '"' then (readString fuel rest).map fun (s, b) => (.str s, b)
        else .error (refuse fuel "a string" (c :: rest))
      | .index =>
        if c = ascii '-' ∨ (digit? c).isSome = true then
          match readScalar? fuel c rest with
          | some (.error f) => .error f
          | some (.ok (.int (.ofNat n), b)) => .ok (.int n, b)
          | some (.ok (v, b)) => .error (.refused (σ.refusal v .index) b)
          | none => .error (.next .expectedValue (c :: rest))
        else .error (refuse fuel "usize" (c :: rest))
      | .list item =>
        if c = ascii '[' then
          match levels with
          | 0 => .error (.next .tooDeep (c :: rest))
          | levels + 1 =>
            (Bracket.square.around
              (readItems (fun b => σ.readValue fuel levels item b) fuel [] rest)).map
                fun (items, b) => (.arr items, b)
        else .error (refuse fuel "a sequence" (c :: rest))
      | .dict item =>
        if c = ascii '\x7b' then
          match levels with
          | 0 => .error (.next .tooDeep (c :: rest))
          | levels + 1 =>
            (Bracket.brace.around
              (readMembers (plainMember fun b => σ.readValue fuel levels item b)
                fuel fuel true [] rest)).map fun (members, b) => (.ofMembers members, b)
        else .error (refuse fuel "a map" (c :: rest))
      | .record r =>
        if c = ascii '\x7b' then
          match levels with
          | 0 => .error (.next .tooDeep (c :: rest))
          | levels + 1 =>
            (Bracket.brace.around
              (checkMissing σ r
                (readMembers (recordMember σ r fuel fun s b => σ.readValue fuel levels s b)
                  fuel fuel true [] rest))).map fun (members, b) => (.ofMembers members, b)
        else if c = ascii '[' ∧ σ.rest r = .ignored then
          match levels with
          | 0 => .error (.next .tooDeep (c :: rest))
          | levels + 1 =>
            (Bracket.square.around
              (readPositions σ r (fun s b => σ.readValue fuel levels s b) 0 []
                (σ.fields r) rest)).map fun (members, b) => (.obj members, b)
        else .error (refuse fuel (σ.expected r) (c :: rest))
      | shape =>
        if c = ascii '[' then
          match levels with
          | 0 => .error (.next .tooDeep (c :: rest))
          | levels + 1 =>
            match Bracket.square.around
                (readItems (fun b => σ.readValue fuel levels .any b) fuel [] rest) with
            | .error f => .error f
            | .ok (items, b) =>
              match shape with
              | .tag => .error (.unplaced (.noVariant tagTitle) b)
              | _ => .ok (.arr items, b)
        else if c = ascii '\x7b' then
          match levels with
          | 0 => .error (.next .tooDeep (c :: rest))
          | levels + 1 =>
            match Bracket.brace.around
                (readMembers (plainMember fun b => σ.readValue fuel levels .any b)
                  fuel fuel true [] rest) with
            | .error f => .error f
            | .ok (members, b) =>
              match shape with
              | .tag =>
                match tagOfMembers? members with
                | some tag => .ok (tag, b)
                | none => .error (.unplaced (.noVariant tagTitle) b)
              | _ => .ok (.ofMembers members, b)
        else
          match readScalar? fuel c rest with
          | none => .error (.next .expectedValue (c :: rest))
          | some (.error f) => .error f
          | some (.ok (v, b)) =>
            match shape with
            | .tag =>
              match v with
              | .str s => .ok (.str s, b)
              | _ => .error (.unplaced (.noVariant tagTitle) b)
            | _ => .ok (v, b)

/-- Blanks alone are no value, whatever shape is asked for. -/
theorem readValue_of_blank {σ : Schema ρ} {b : Bytes} (hblank : skipSpace b = [])
    (fuel levels : Nat) (shape : Shape ρ) :
    σ.readValue fuel levels shape b = .error (.next .eofValue []) := by
  rw [Schema.readValue, hblank]

/-- How deep lists and objects may be nested. -/
def maxLevels : Nat := 127

/-- Enough fuel for every loop over a text of the given length. -/
def fuelFor (text : Bytes) : Nat :=
  4 * text.length + 4

/-- The value of a whole text of a given shape, or the fault in it. -/
def Schema.readFault (σ : Schema ρ) (shape : Shape ρ) (text : Bytes) : Except Fault Json :=
  match σ.readValue (fuelFor text) maxLevels shape text with
  | .error f => .error f
  | .ok (v, b) =>
    match skipSpace b with
    | [] => .ok v
    | rest => .error (.next .trailingCharacters rest)

/-- The value of a whole text of a given shape, or what is wrong with the text, in words. -/
def Schema.read (σ : Schema ρ) (shape : Shape ρ) (text : String) : Except String Json :=
  let bytes := text.toUTF8.toList
  (σ.readFault shape bytes).mapError (Fault.message bytes)

/-- The schema without records. -/
def plain : Schema Empty where
  title := nofun
  fields := nofun
  rest := nofun

/-- The value of a whole text, or the fault in it. -/
def parseFault (text : Bytes) : Except Fault Json :=
  plain.readFault .any text

/-- The value of a whole text, or what is wrong with it, in words. -/
def parseBytes (text : Bytes) : Except String Json :=
  (parseFault text).mapError (Fault.message text)

/-- The value of a whole text, or what is wrong with it, in words. -/
def parse (text : String) : Except String Json :=
  parseBytes text.toUTF8.toList

end Json
end RunnerGateway
