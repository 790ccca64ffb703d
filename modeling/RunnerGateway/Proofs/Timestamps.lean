import RunnerGateway.Proofs.Calendar
import RunnerGateway.Proofs.Numerals

/-!
# Timestamps as they are written

A time is written `YYYY-MM-DDTHH:MM:SS`, perhaps with a fraction of a second, and with an offset
from UTC or without one.  `written` gives the text and `read?` reads it: as the number of the second
in which the time lies, if there is such a day, and not at all if there is none.  Each part of the
text is read by one function of either notation, and for each there is a lemma about that part with
anything behind it.
-/

namespace RunnerGateway
namespace Timestamp

/-! ## Writing -/

/-- The last `width` decimal digits of a number. -/
def fixedDigits : (width : Nat) → Nat → List Char
  | 0, _ => []
  | width + 1, n => fixedDigits width (n / 10) ++ [Nat.digitChar (n % 10)]

/-- A date and a time of day, divided by `T`. -/
def Civil.text (c : Civil) : List Char :=
  fixedDigits 4 c.year.toNat ++ '-' :: fixedDigits 2 c.month ++ '-' :: fixedDigits 2 c.day ++
    'T' :: fixedDigits 2 c.hour ++ ':' :: fixedDigits 2 c.minute ++ ':' :: fixedDigits 2 c.second

/-- The fraction with these digits; without digits there is none. -/
def fractionText : List (Fin 10) → List Char
  | [] => []
  | d :: ds => '.' :: (d :: ds).map fun d => Nat.digitChar d.val

/-- What part of a second the digits of a fraction are. -/
def fractionValue : List (Fin 10) → ℚ
  | [] => 0
  | d :: ds => ((d.val : ℚ) + fractionValue ds) / 10

/-- The offset from UTC at the end of a timestamp. -/
inductive Zone
  | utc
  | offset (behind : Bool) (hours : Fin 24) (minutes : Fin 60)

def Zone.text : Zone → List Char
  | .utc => ['Z']
  | .offset behind hours minutes =>
    (if behind then '-' else '+') :: fixedDigits 2 hours.val ++ ':' :: fixedDigits 2 minutes.val

/-- The offset in seconds, which is negative if the clocks are behind UTC. -/
def Zone.seconds : Zone → Int
  | .utc => 0
  | .offset behind hours minutes =>
    (if behind then -1 else 1) * (hours.val * 3600 + minutes.val * 60 : Nat)

/-- The offset, if there is one. -/
def zoneText : Option Zone → List Char
  | none => []
  | some zone => zone.text

/-- The whole timestamp. -/
def written (c : Civil) (fraction : List (Fin 10)) (zone : Option Zone) : String :=
  String.ofList (c.text ++ (fractionText fraction ++ zoneText zone))

/-- The numbers of the date have no more digits than are written, and there is such a time of
day. -/
structure Civil.IsWritten (c : Civil) : Prop where
  year_nonneg : 0 ≤ c.year
  year_le : c.year ≤ 9999
  month_le : c.month ≤ 99
  day_le : c.day ≤ 99
  time : c.IsTime

/-! ## Digits -/

variable {c : Civil} {width n : Nat} {rest cs : List Char}

theorem digit?_digitChar {d : Nat} (hd : d < 10) : Text.digit? (Nat.digitChar d) = some d := by
  revert d
  decide

theorem isBlank_digitChar {d : Nat} (hd : d < 10) : Text.isBlank (Nat.digitChar d) = false := by
  revert d
  decide

theorem length_fixedDigits (width n : Nat) : (fixedDigits width n).length = width := by
  induction width generalizing n with
  | zero => rfl
  | succ width ih => simp [fixedDigits, ih]

theorem exists_of_mem_fixedDigits {x : Char} (hx : x ∈ fixedDigits width n) :
    ∃ d < 10, x = Nat.digitChar d := by
  induction width generalizing n with
  | zero => cases hx
  | succ width ih =>
      rcases List.mem_append.1 hx with hx | hx
      · exact ih hx
      · exact ⟨n % 10, Nat.mod_lt _ (by decide), List.mem_singleton.1 hx⟩

/-- A number that is written with fixed width is read from left to right, whatever was read before
and whatever is still to be read. -/
theorem fixedDigits?_add (hn : n < 10 ^ width) (more value : Nat) (rest : List Char) :
    fixedDigits? (width + more) value (fixedDigits width n ++ rest) =
      fixedDigits? more (value * 10 ^ width + n) rest := by
  induction width generalizing n more rest with
  | zero =>
      obtain rfl : n = 0 := by simpa using hn
      simp [fixedDigits]
  | succ width ih =>
      have hshort : n / 10 < 10 ^ width := by
        rw [Nat.pow_succ] at hn
        omega
      have hvalue : (value * 10 ^ width + n / 10) * 10 + n % 10 =
          value * 10 ^ (width + 1) + n := by
        rw [Nat.pow_succ, ← Nat.mul_assoc]
        omega
      rw [fixedDigits, List.append_assoc, Nat.add_right_comm, Nat.add_assoc, ih hshort,
        List.singleton_append, fixedDigits?, digit?_digitChar (Nat.mod_lt _ (by decide))]
      simp only [hvalue]

theorem fixedDigits?_fixedDigits (hn : n < 10 ^ width) (rest : List Char) :
    fixedDigits? width 0 (fixedDigits width n ++ rest) = some (n, rest) := by
  have h := fixedDigits?_add hn 0 0 rest
  simpa [fixedDigits?] using h

theorem skip?_cons (x : Char) (rest : List Char) : skip? x (x :: rest) = some rest :=
  if_pos rfl

/-! ## Numbers of the lenient notation -/

theorem dropWhile_isBlank_fixedDigits (hwidth : 0 < width) (n : Nat) (rest : List Char) :
    (fixedDigits width n ++ rest).dropWhile Text.isBlank = fixedDigits width n ++ rest := by
  cases hdigits : fixedDigits width n with
  | nil =>
      have hlength := length_fixedDigits width n
      rw [hdigits] at hlength
      exact absurd hlength hwidth.ne
  | cons x xs =>
      obtain ⟨d, hd, rfl⟩ := exists_of_mem_fixedDigits (hdigits ▸ List.mem_cons_self)
      rw [List.cons_append, List.dropWhile_cons_of_neg (by simp [isBlank_digitChar hd])]

theorem takeWhile_fixedDigits (width n : Nat) :
    (fixedDigits width n).takeWhile (fun x => (Text.digit? x).isSome) = fixedDigits width n := by
  refine List.takeWhile_eq_self_iff.2 fun x hx => ?_
  obtain ⟨d, hd, rfl⟩ := exists_of_mem_fixedDigits hx
  simp [digit?_digitChar hd]

theorem looseDigits?_fixedDigits (hwidth : 0 < width) (hn : n < 10 ^ width) (rest : List Char) :
    looseDigits? width (fixedDigits width n ++ rest) = some (n, rest) := by
  have hlength := length_fixedDigits width n
  have hne : (fixedDigits width n).isEmpty = false := by
    rw [List.isEmpty_eq_false_iff, ← List.length_pos_iff, hlength]
    exact hwidth
  have hread := fixedDigits?_fixedDigits hn []
  rw [List.append_nil] at hread
  simp only [looseDigits?, dropWhile_isBlank_fixedDigits hwidth, List.take_left' hlength,
    takeWhile_fixedDigits, hne, hlength, hread, List.drop_left' hlength]
  rfl

theorem digitChar_ne_sign {d : Nat} (hd : d < 10) :
    Nat.digitChar d ≠ '+' ∧ Nat.digitChar d ≠ '-' := by
  revert d
  decide

/-- A year without a sign is a number of at most four digits. -/
theorem looseYear?_fixedDigits (hn : n < 10 ^ 4) (rest : List Char) :
    looseYear? (fixedDigits 4 n ++ rest) = some ((n : Int), rest) := by
  have hloose := looseDigits?_fixedDigits (by decide) hn rest
  have hdrop := dropWhile_isBlank_fixedDigits (show 0 < 4 by decide) n rest
  obtain ⟨x, xs, hdigits⟩ : ∃ x xs, fixedDigits 4 n = x :: xs := ⟨_, _, rfl⟩
  obtain ⟨d, hd, rfl⟩ := exists_of_mem_fixedDigits (hdigits ▸ List.mem_cons_self)
  rw [hdigits, List.cons_append] at hloose hdrop ⊢
  unfold looseYear?
  rw [hdrop]
  split
  · rename_i heq
    exact ((digitChar_ne_sign hd).1 (List.cons.inj heq).1).elim
  · rename_i heq
    exact ((digitChar_ne_sign hd).2 (List.cons.inj heq).1).elim
  · rw [hloose]
    rfl

/-! ## Dates and times -/

theorem strictCivil?_text (hc : c.IsWritten) (rest : List Char) :
    strictCivil? (c.text ++ rest) = some (c, rest) := by
  obtain ⟨hyear, hyear', hmonth, hday, hhour, hminute, hsecond⟩ := hc
  have hyears : ((c.year.toNat : Nat) : Int) = c.year := Int.toNat_of_nonneg hyear
  have hread {width n : Nat} (hn : n < 10 ^ width) := fixedDigits?_fixedDigits hn
  simp only [strictCivil?, Civil.text, List.append_assoc, List.cons_append,
    hread (show c.year.toNat < 10 ^ 4 by omega), hread (show c.month < 10 ^ 2 by omega),
    hread (show c.day < 10 ^ 2 by omega), hread (show c.hour < 10 ^ 2 by omega),
    hread (show c.minute < 10 ^ 2 by omega), hread (show c.second < 10 ^ 2 by omega),
    skip?_cons, skipDivider?, Option.bind_some, true_or, if_true, Option.bind_eq_bind, hyears]
  rfl

theorem lenientCivil?_text (hc : c.IsWritten) (rest : List Char) :
    lenientCivil? (c.text ++ rest) = some (c, rest) := by
  obtain ⟨hyear, hyear', hmonth, hday, hhour, hminute, hsecond⟩ := hc
  have hyears : ((c.year.toNat : Nat) : Int) = c.year := Int.toNat_of_nonneg hyear
  have hread {n : Nat} (hn : n < 10 ^ 2) := looseDigits?_fixedDigits (show 0 < 2 by decide) hn
  simp only [lenientCivil?, Civil.text, List.append_assoc, List.cons_append,
    looseYear?_fixedDigits (show c.year.toNat < 10 ^ 4 by omega),
    hread (show c.month < 10 ^ 2 by omega), hread (show c.day < 10 ^ 2 by omega),
    hread (show c.hour < 10 ^ 2 by omega), hread (show c.minute < 10 ^ 2 by omega),
    hread (show c.second < 10 ^ 2 by omega), skip?_cons, Option.bind_some, Option.bind_eq_bind,
    hyears]
  rfl

theorem isDay_of_isValid (h : c.isValid = true) : c.IsDay := by
  simp only [Civil.isValid, Bool.and_eq_true, decide_eq_true_eq, and_assoc] at h
  obtain ⟨-, -, hmonth, hmonth', hday, hday', -⟩ := h
  exact ⟨hmonth, hmonth', hday, hday'⟩

theorem isValid_iff (hc : c.IsWritten) : c.isValid = true ↔ c.IsDay := by
  refine ⟨isDay_of_isValid, ?_⟩
  obtain ⟨hyear, hyear', -, -, hhour, hminute, hsecond⟩ := hc
  rintro ⟨hmonth, hmonth', hday, hday'⟩
  simp only [Civil.isValid, Bool.and_eq_true, decide_eq_true_eq, and_assoc]
  exact ⟨le_trans (by decide) hyear, hyear'.trans (by decide), hmonth, hmonth', hday, hday',
    hhour, hminute, hsecond.trans (by decide)⟩

/-! ## Fractions and offsets -/

/-- What comes next is neither a digit nor a point. -/
def EndsFraction (rest : List Char) : Prop :=
  ∀ x, rest.head? = some x → Text.digit? x = none ∧ x ≠ '.'

theorem endsFraction_zoneText (zone : Option Zone) : EndsFraction (zoneText zone) := by
  intro x hx
  match zone with
  | none => cases hx
  | some .utc =>
      obtain rfl := Option.some.inj hx
      decide
  | some (.offset behind _ _) =>
      obtain rfl := Option.some.inj hx
      cases behind <;> decide

theorem skipFraction?_fractionText (fraction : List (Fin 10)) (hrest : EndsFraction rest) :
    skipFraction? (fractionText fraction ++ rest) = some rest := by
  cases fraction with
  | nil =>
      change skipFraction? rest = some rest
      unfold skipFraction?
      split
      · exact ((hrest _ rfl).2 rfl).elim
      · exact ((hrest _ rfl).2 rfl).elim
      · rfl
  | cons d ds =>
      have hdigits : ∀ x ∈ ds.map fun d => Nat.digitChar d.val, (Text.digit? x).isSome = true := by
        intro x hx
        obtain ⟨d, -, rfl⟩ := List.mem_map.1 hx
        simp [digit?_digitChar d.isLt]
      have hdrop : rest.dropWhile (fun x => (Text.digit? x).isSome) = rest := by
        cases rest with
        | nil => rfl
        | cons x xs => exact List.dropWhile_cons_of_neg (by simp [(hrest x rfl).1])
      rw [fractionText, List.map_cons, List.cons_append, List.cons_append, skipFraction?,
        digit?_digitChar d.isLt, List.dropWhile_append_of_pos hdigits, hdrop]
      rfl

theorem offset?_text (zone : Zone) : offset? zone.text = some zone.seconds := by
  cases zone with
  | utc => rfl
  | offset behind hours minutes =>
      have hhours (rest : List Char) :
          fixedDigits? 2 0 (fixedDigits 2 hours.val ++ rest) = some (hours.val, rest) :=
        fixedDigits?_fixedDigits (by omega) rest
      have hminutes : fixedDigits? 2 0 (fixedDigits 2 minutes.val ++ []) = some (minutes.val, []) :=
        fixedDigits?_fixedDigits (by omega) []
      have hlimits : hours.val ≤ 23 ∧ minutes.val ≤ 59 := by omega
      rw [List.append_nil] at hminutes
      rw [Zone.text, List.cons_append, offset?]
      · cases behind <;>
          simp [hhours, hminutes, skip?_cons, hlimits, Zone.seconds]
      · cases behind <;> simp
      · cases behind <;> simp

/-! ## Reading -/

theorem readStrict?_written (hc : c.IsWritten) (fraction : List (Fin 10)) (zone : Option Zone) :
    readStrict? (written c fraction zone).toList =
      (offset? (zoneText zone)).bind fun offset =>
        if c.isValid then some (c.seconds - offset) else none := by
  rw [written, String.toList_ofList, readStrict?, strictCivil?_text hc]
  simp only [Option.bind_eq_bind, Option.bind_some,
    skipFraction?_fractionText fraction (endsFraction_zoneText zone)]

theorem readLenient?_written (hc : c.IsWritten) (fraction : List (Fin 10)) (zone : Option Zone) :
    readLenient? (written c fraction zone).toList =
      if (zoneText zone).isEmpty && c.isValid then some c.seconds else none := by
  rw [written, String.toList_ofList, readLenient?, lenientCivil?_text hc]
  simp only [Option.bind_eq_bind, Option.bind_some,
    skipFraction?_fractionText fraction (endsFraction_zoneText zone)]

theorem fractionValue_mem (fraction : List (Fin 10)) :
    0 ≤ fractionValue fraction ∧ fractionValue fraction < 1 := by
  induction fraction with
  | nil => simp [fractionValue]
  | cons d ds ih =>
      obtain ⟨hlow, hhigh⟩ := ih
      have hd : (d.val : ℚ) ≤ 9 := by exact_mod_cast Nat.le_of_lt_succ d.isLt
      have hpos : (0 : ℚ) ≤ d.val := Nat.cast_nonneg _
      rw [fractionValue]
      constructor
      · positivity
      · linarith

/-- Whatever the fraction is, the second before it is the one that the time lies in. -/
theorem floor_add_fractionValue (n offset : Int) (fraction : List (Fin 10)) :
    ⌊(n : ℚ) + fractionValue fraction - offset⌋ = n - offset := by
  obtain ⟨hlow, hhigh⟩ := fractionValue_mem fraction
  rw [Int.floor_eq_iff]
  push_cast
  constructor <;> linarith

theorem read?_written_zone (hc : c.IsWritten) (hday : c.IsDay) (fraction : List (Fin 10))
    (zone : Zone) : read? (written c fraction (some zone)) = some (c.seconds - zone.seconds) := by
  rw [read?, readStrict?_written hc, zoneText, offset?_text, Option.bind_some,
    if_pos ((isValid_iff hc).2 hday)]
  rfl

theorem read?_written_none (hc : c.IsWritten) (hday : c.IsDay) (fraction : List (Fin 10)) :
    read? (written c fraction none) = some c.seconds := by
  rw [read?, readStrict?_written hc, readLenient?_written hc, (isValid_iff hc).2 hday]
  rfl

theorem read?_written_of_not_isDay (hc : c.IsWritten) (hday : ¬c.IsDay)
    (fraction : List (Fin 10)) (zone : Option Zone) : read? (written c fraction zone) = none := by
  have hvalid : c.isValid = false := by
    simpa using mt (isValid_iff hc).1 hday
  rw [read?, readStrict?_written hc, readLenient?_written hc, hvalid]
  cases offset? (zoneText zone) <;> simp

/-! ## Range -/

/-- No year that a date may have is further than ten trillion seconds away. -/
theorem seconds_mem (h : c.isValid = true) : -(10 ^ 13) ≤ c.seconds ∧ c.seconds ≤ 10 ^ 13 := by
  obtain ⟨hlow, hhigh⟩ := Civil.days_mem (isDay_of_isValid h)
  simp only [Civil.isValid, Bool.and_eq_true, decide_eq_true_eq, and_assoc] at h
  obtain ⟨hyear, hyear', -, -, -, -, hhour, hminute, -⟩ := h
  have hfirst := Civil.yearDays_le_yearDays hyear
  have hlast := Civil.yearDays_le_yearDays (Int.add_le_add_right hyear' 1)
  have hends : yearDays yearRange.1 = -95745764 ∧ yearDays (yearRange.2 + 1) = 95745765 ∧
      yearDays 1970 = 719528 := by decide
  rw [hends.1] at hfirst
  rw [hends.2.1] at hlast
  rw [hends.2.2] at hlow hhigh
  rw [Civil.seconds]
  push_cast
  omega

theorem offset?_mem {offset : Int} (h : offset? cs = some offset) :
    -86400 ≤ offset ∧ offset ≤ 86400 := by
  unfold offset? at h
  split at h
  · obtain rfl := Option.some.inj h
    decide
  · obtain rfl := Option.some.inj h
    decide
  · rename_i sign cs _ _
    simp only at h
    split at h
    · rename_i direction hours cs hdirection _
      split at h
      · rename_i minutes _
        split at h
        · rename_i hlimits
          obtain rfl := Option.some.inj h
          have hone : direction = 1 ∨ direction = -1 := by
            split at hdirection
            · exact .inl (Option.some.inj hdirection).symm
            · split at hdirection
              · exact .inr (Option.some.inj hdirection).symm
              · cases hdirection
          rcases hone with rfl | rfl <;> omega
        · cases h
      · cases h
    · cases h
  · cases h

/-- What is read is a signed 64-bit number. -/
theorem read?_mem {raw : String} {time : Int} (h : read? raw = some time) :
    -(Text.maxSigned : Int) ≤ time ∧ time ≤ Text.maxSigned := by
  have hmax : Text.maxSigned = 9223372036854775807 := by decide
  rw [hmax]
  rw [read?, Option.or_eq_some_iff] at h
  rcases h with hstrict | ⟨-, hlenient⟩
  · simp only [readStrict?, Option.bind_eq_bind, Option.bind_eq_some_iff] at hstrict
    obtain ⟨⟨civil, cs⟩, -, offset, ⟨rest, -, hoffset⟩, htime⟩ := hstrict
    split at htime
    · rename_i hvalid
      obtain rfl := Option.some.inj htime
      have hseconds := seconds_mem hvalid
      have hrange := offset?_mem hoffset
      omega
    · cases htime
  · simp only [readLenient?, Option.bind_eq_bind, Option.bind_eq_some_iff] at hlenient
    obtain ⟨⟨civil, cs⟩, -, rest, -, htime⟩ := hlenient
    split at htime
    · rename_i hvalid
      obtain rfl := Option.some.inj htime
      have hseconds := seconds_mem (Bool.and_eq_true_iff.1 hvalid).2
      omega
    · cases htime

/-! ## The whole timestamp -/

/-- A time that is written with its offset from UTC is read as the number of whole seconds from the
beginning of 1970 to it, rounded down, so that the fraction does not matter.  Without an offset it
is read as a time in UTC.  If there is no such day, it is not read at all. -/
theorem timestamp_is_read_exactly (c : Civil) (hc : c.IsWritten) (fraction : List (Fin 10)) :
    (c.IsDay → ∃ n : Int, (∀ m, Civil.epoch.Apart c m ↔ m = n) ∧
      (∀ zone : Zone, read? (written c fraction (some zone)) =
        some ⌊(n : ℚ) + fractionValue fraction - zone.seconds⌋) ∧
      read? (written c fraction none) = read? (written c fraction (some .utc))) ∧
    (¬c.IsDay → ∀ zone : Option Zone, read? (written c fraction zone) = none) := by
  refine ⟨fun hday => ⟨c.seconds, fun m => Civil.apart_epoch_iff hday hc.time, ?_, ?_⟩,
    fun hday zone => read?_written_of_not_isDay hc hday fraction zone⟩
  · intro zone
    rw [read?_written_zone hc hday, floor_add_fractionValue]
  · rw [read?_written_none hc hday, read?_written_zone hc hday]
    simp [Zone.seconds]

/-- The last second before 1970. -/
def lastSecond : Civil := ⟨1969, 12, 31, 23, 59, 59⟩

/-- A day that the year 1900 did not have. -/
def missingDay : Civil := ⟨1900, 2, 29, 0, 0, 0⟩

/-- Half a second before the end of 1969, an hour ahead of UTC, and a day that there was not. -/
theorem timestamp_is_read_exactly_before_1970 :
    lastSecond.IsWritten ∧ lastSecond.IsDay ∧ missingDay.IsWritten ∧ ¬missingDay.IsDay ∧
      read? "1969-12-31T23:59:59.5+01:00" = some (-3601) ∧
      read? "1900-02-29T00:00:00" = none := by
  have hlast : lastSecond.IsWritten :=
    ⟨by decide, by decide, by decide, by decide, by decide, by decide, by decide⟩
  have hday : lastSecond.IsDay := ⟨by decide, by decide, by decide, by decide⟩
  have hmissing : missingDay.IsWritten :=
    ⟨by decide, by decide, by decide, by decide, by decide, by decide, by decide⟩
  have hnone : ¬missingDay.IsDay := fun h => absurd h.day_le (by decide)
  obtain ⟨n, hn, hzone, -⟩ := (timestamp_is_read_exactly lastSecond hlast [5]).1 hday
  obtain rfl : -1 = n := (hn (-1)).1 ⟨1, .inr ⟨rfl, by decide⟩⟩
  have hfloor : ⌊((-1 : Int) : ℚ) + fractionValue [5] -
      (Zone.offset false 1 0).seconds⌋ = -3601 := by
    rw [floor_add_fractionValue]
    simp [Zone.seconds]
  have htext : written lastSecond [5] (some (.offset false 1 0)) =
      "1969-12-31T23:59:59.5+01:00" := by decide +kernel
  have hother : written missingDay [] none = "1900-02-29T00:00:00" := by decide +kernel
  refine ⟨hlast, hday, hmissing, hnone, ?_, ?_⟩
  · rw [← htext, hzone, hfloor]
  · rw [← hother]
    exact (timestamp_is_read_exactly missingDay hmissing []).2 hnone none

end Timestamp
end RunnerGateway
