/-!
# Punycode

The ASCII spelling of a text in any script, as in `xn--` labels.  The ASCII characters come first;
the other ones follow in ascending order, each as the distance from the place and value of the one
before, in digits of base 36 whose thresholds adapt to the distances seen so far.
-/

namespace RunnerGateway
namespace Url
namespace Punycode

/-- The digit of base 36: a letter for 0 to 25, then a decimal digit. -/
def digitChar (d : Nat) : Char :=
  if d < 26 then Char.ofNat (0x61 + d) else Char.ofNat (0x30 + (d - 26))

/-- The value of a digit of base 36; capitals count as small letters. -/
def digitValue? (c : Char) : Option Nat :=
  let n := c.toNat
  if 0x61 ≤ n ∧ n ≤ 0x7A then some (n - 0x61)
  else if 0x41 ≤ n ∧ n ≤ 0x5A then some (n - 0x41)
  else if 0x30 ≤ n ∧ n ≤ 0x39 then some (n - 0x30 + 26)
  else none

/-- The threshold of the digit at the position `k`, counted in steps of 36. -/
def threshold (k bias : Nat) : Nat :=
  if k ≤ bias then 1 else if bias + 26 ≤ k then 26 else k - bias

theorem threshold_pos (k bias : Nat) : 0 < threshold k bias := by
  unfold threshold
  split
  · omega
  · split <;> omega

theorem threshold_le (k bias : Nat) : threshold k bias ≤ 26 := by
  unfold threshold
  split
  · omega
  · split <;> omega

/-- Divides by 35 until the number is small; gives it back with 36 for each division. -/
def adaptLoop (delta k : Nat) : Nat × Nat :=
  if 455 < delta then adaptLoop (delta / 35) (k + 36) else (delta, k)
termination_by delta
decreasing_by exact Nat.div_lt_self (by omega) (by omega)

/-- The bias after a distance `delta`, when `count` characters have been placed. -/
def adapt (delta count : Nat) (first : Bool) : Nat :=
  let damped := if first then delta / 700 else delta / 2
  let (rest, k) := adaptLoop (damped + damped / count) 0
  k + 36 * rest / (rest + 38)

/-- The digits of a distance. -/
def encodeDistance (bias k q : Nat) : List Char :=
  let t := threshold k bias
  if q < t then [digitChar q]
  else digitChar (t + (q - t) % (36 - t)) :: encodeDistance bias (k + 36) ((q - t) / (36 - t))
termination_by q
decreasing_by
  have := threshold_pos k bias
  have := threshold_le k bias
  exact Nat.lt_of_le_of_lt (Nat.div_le_self _ _) (by omega)

/-- What is written, the running distance, the bias and the count of characters placed. -/
structure Progress where
  written : List Char
  delta : Nat
  bias : Nat
  placed : Nat

/-- Passes the character `n` of the text while those equal to `m` are placed. -/
def placeOne (basic m : Nat) (p : Progress) (n : Nat) : Progress :=
  if n < m then { p with delta := p.delta + 1 }
  else if n = m then
    { written := p.written ++ encodeDistance p.bias 36 p.delta
      delta := 0
      bias := adapt p.delta (p.placed + 1) (p.placed = basic)
      placed := p.placed + 1 }
  else p

/-- Places every character equal to the next one of an ascending list; `n` is the least value that
is still open. -/
def placeAll (text : List Nat) (basic : Nat) : List Nat → Nat → Progress → Progress
  | [], _, p => p
  | m :: ms, n, p =>
    let p := { p with delta := p.delta + (m - n) * (p.placed + 1) }
    let p := text.foldl (placeOne basic m) p
    placeAll text basic ms (m + 1) { p with delta := p.delta + 1 }

/-- An ascending list with one more element, unless it has it. -/
def insertAscending (n : Nat) : List Nat → List Nat
  | [] => [n]
  | m :: ms => if n < m then n :: m :: ms else if n = m then m :: ms else m :: insertAscending n ms

/-- The ASCII spelling of a text. -/
def encode (cs : List Char) : List Char :=
  let text := cs.map Char.toNat
  let basics := cs.filter fun c => c.toNat < 0x80
  let others := (text.filter fun n => 0x80 ≤ n).foldr insertAscending []
  let start := if basics.isEmpty then [] else basics ++ ['-']
  (placeAll text basics.length others 0x80 ⟨start, 0, 72, basics.length⟩).written

/-- The distance at the front of a spelling and what follows it. -/
def decodeDistance? (bias : Nat) : (k weight value : Nat) → List Char → Option (Nat × List Char)
  | _, _, _, [] => none
  | k, weight, value, c :: cs =>
    match digitValue? c with
    | none => none
    | some d =>
      let value := value + d * weight
      let t := threshold k bias
      if d < t then some (value, cs)
      else decodeDistance? bias (k + 36) (weight * (36 - t)) value cs

theorem decodeDistance?_length {bias k weight value : Nat} {cs : List Char} {n : Nat}
    {rest : List Char} (h : decodeDistance? bias k weight value cs = some (n, rest)) :
    rest.length < cs.length := by
  induction cs generalizing k weight value with
  | nil => simp [decodeDistance?] at h
  | cons c cs ih =>
    unfold decodeDistance? at h
    split at h
    · simp at h
    · dsimp only at h
      split at h
      · simp only [Option.some.injEq, Prod.mk.injEq] at h
        simp [← h.2]
      · exact Nat.lt_succ_of_lt (ih h)

/-- Places the characters that a spelling gives distances for; `i` and `n` are the place and value
of the last one. -/
def decodeRest? (bias i n : Nat) (text : List Nat) (cs : List Char) : Option (List Nat) :=
  if cs = [] then some text
  else
    match h : decodeDistance? bias 36 1 i cs with
    | none => none
    | some (distance, rest) =>
      let count := text.length + 1
      let value := n + distance / count
      let place := distance % count
      if value < 0x110000 then
        decodeRest? (adapt (distance - i) count (i = 0)) (place + 1) value
          (text.insertIdx place value) rest
      else none
termination_by cs.length
decreasing_by exact decodeDistance?_length h

/-- The text before and after the last hyphen. -/
def splitLastHyphen (cs : List Char) : List Char × List Char :=
  if cs.contains '-' then
    let after := (cs.reverse.takeWhile fun c => c ≠ '-').reverse
    (cs.take (cs.length - after.length - 1), after)
  else ([], cs)

/-- The text with the given ASCII spelling. -/
def decode? (cs : List Char) : Option (List Char) :=
  let (basics, rest) := splitLastHyphen cs
  if basics.all fun c => c.toNat < 0x80 then
    match decodeRest? 72 0 0x80 (basics.map Char.toNat) rest with
    | none => none
    | some text => if text.all fun n => n.isValidChar then some (text.map Char.ofNat) else none
  else none

end Punycode
end Url
end RunnerGateway
