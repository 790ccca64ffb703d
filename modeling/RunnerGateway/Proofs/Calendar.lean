import Mathlib
import RunnerGateway.Timestamp

/-!
# The calendar as a clock

`Civil.seconds` computes the number of a second from the date and the time of day.  Here that number
is compared with a clock that just counts: `Civil.tick` shows the next second and carries over to
minutes, hours, days, months and years.  Every tick adds one second (`seconds_tick`), and no two
moments have the same number (`eq_of_seconds_eq`).  So the number of a moment is the number of ticks
that lie between the beginning of 1970 and the moment, before which they count as negative.
-/

namespace RunnerGateway
namespace Timestamp
namespace Civil

variable {c c' : Civil} {n : Int}

/-! ## The clock -/

/-- There is such a day in the proleptic Gregorian calendar. -/
structure IsDay (c : Civil) : Prop where
  month_pos : 1 ≤ c.month
  month_le : c.month ≤ 12
  day_pos : 1 ≤ c.day
  day_le : c.day ≤ monthDays c.year c.month

/-- There is such a time of day; leap seconds are left out. -/
structure IsTime (c : Civil) : Prop where
  hour_le : c.hour ≤ 23
  minute_le : c.minute ≤ 59
  second_le : c.second ≤ 59

/-- The same time on the next day. -/
def nextDay (c : Civil) : Civil :=
  if c.day < monthDays c.year c.month then { c with day := c.day + 1 }
  else if c.month < 12 then { c with month := c.month + 1, day := 1 }
  else { c with year := c.year + 1, month := 1, day := 1 }

/-- The next second. -/
def tick (c : Civil) : Civil :=
  if c.second < 59 then { c with second := c.second + 1 }
  else if c.minute < 59 then { c with minute := c.minute + 1, second := 0 }
  else if c.hour < 23 then { c with hour := c.hour + 1, minute := 0, second := 0 }
  else { c.nextDay with hour := 0, minute := 0, second := 0 }

/-- The beginning of the year 1970. -/
def epoch : Civil := ⟨1970, 1, 1, 0, 0, 0⟩

/-- The clock shows `c'` so many ticks after `c`, or before it if the number is negative. -/
def Apart (c c' : Civil) (n : Int) : Prop :=
  ∃ k : Nat, n = k ∧ tick^[k] c = c' ∨ n = -k ∧ tick^[k] c' = c

/-! ## Days -/

theorem monthDays_pos (year : Int) (month : Nat) : 1 ≤ monthDays year month := by
  unfold monthDays
  split_ifs <;> decide

theorem yearDays_le_yearDays {year year' : Int} (h : year ≤ year') :
    yearDays year ≤ yearDays year' := by
  simp only [yearDays]
  omega

theorem monthStart_succ (year : Int) {month : Nat} (h : 1 ≤ month) :
    monthStart year (month + 1) = monthStart year month + monthDays year month := by
  obtain ⟨m, rfl⟩ := Nat.exists_eq_add_of_le' h
  rfl

theorem monthStart_le_monthStart (year : Int) {month month' : Nat} (hpos : 1 ≤ month)
    (h : month ≤ month') : monthStart year month ≤ monthStart year month' := by
  induction month', h using Nat.le_induction with
  | base => exact le_rfl
  | succ m hm ih =>
      rw [monthStart_succ year (hpos.trans hm)]
      omega

/-- The twelve months make up the year. -/
theorem yearDays_succ (year : Int) :
    yearDays (year + 1) = yearDays year + monthStart year 13 := by
  have hstart : monthStart year 13 = if isLeap year then 366 else 365 := by
    cases hleap : isLeap year <;> simp [monthStart, monthDays, hleap]
  rw [hstart]
  simp only [isLeap, yearDays, Bool.and_eq_true, Bool.or_eq_true, decide_eq_true_eq, ne_eq]
  split <;> omega

theorem days_eq (c : Civil) :
    c.days = yearDays c.year - yearDays 1970 + monthStart c.year c.month + (c.day - 1) :=
  rfl

theorem isDay_nextDay (h : c.IsDay) : c.nextDay.IsDay := by
  obtain ⟨hmonth, hmonth', hday, hday'⟩ := h
  unfold nextDay
  split_ifs with hlast hyear
  · exact ⟨hmonth, hmonth', by simp, hlast⟩
  · exact ⟨by simp, hyear, le_rfl, monthDays_pos _ _⟩
  · exact ⟨le_rfl, by simp, le_rfl, monthDays_pos _ _⟩

theorem days_nextDay (h : c.IsDay) : c.nextDay.days = c.days + 1 := by
  obtain ⟨hmonth, hmonth', hday, hday'⟩ := h
  have hsucc := monthStart_succ c.year hmonth
  unfold nextDay
  split_ifs with hlast hyear
  · simp only [days_eq]
    omega
  · simp only [days_eq, hsucc]
    omega
  · -- The year is over with its twelfth month.
    obtain hdecember : c.month = 12 := by omega
    have hfirst : monthStart (c.year + 1) 1 = 0 := rfl
    rw [hdecember] at hsucc hlast hday'
    simp only [days_eq, yearDays_succ, hsucc, hfirst, hdecember]
    omega

/-- The days of a year lie between its beginning and that of the next year. -/
theorem days_mem (h : c.IsDay) :
    yearDays c.year ≤ c.days + yearDays 1970 ∧ c.days + yearDays 1970 < yearDays (c.year + 1) := by
  have hsucc := monthStart_succ c.year h.month_pos
  have hyear := monthStart_le_monthStart c.year (by omega : 1 ≤ c.month + 1)
    (by have := h.month_le; omega : c.month + 1 ≤ 13)
  have hpos := h.day_pos
  have hle := h.day_le
  rw [yearDays_succ, days_eq]
  omega

theorem year_le_of_days_le (h : c.IsDay) (h' : c'.IsDay) (hdays : c.days ≤ c'.days) :
    c.year ≤ c'.year := by
  by_contra hlt
  have hstart := yearDays_le_yearDays (show c'.year + 1 ≤ c.year by omega)
  obtain ⟨hlow, -⟩ := days_mem h
  obtain ⟨-, hhigh⟩ := days_mem h'
  omega

theorem month_le_of_days_le (h : c.IsDay) (h' : c'.IsDay) (hyear : c.year = c'.year)
    (hdays : c.days ≤ c'.days) : c.month ≤ c'.month := by
  by_contra hlt
  have hstart := monthStart_le_monthStart c'.year (by omega) (show c'.month + 1 ≤ c.month by omega)
  have hsucc := monthStart_succ c'.year h'.month_pos
  have hpos := h.day_pos
  have hle := h'.day_le
  rw [days_eq, days_eq, hyear] at hdays
  omega

theorem day_eq_of_days_eq (h : c.IsDay) (h' : c'.IsDay) (hdays : c.days = c'.days) :
    c.year = c'.year ∧ c.month = c'.month ∧ c.day = c'.day := by
  have hyear : c.year = c'.year :=
    le_antisymm (year_le_of_days_le h h' hdays.le) (year_le_of_days_le h' h hdays.ge)
  have hmonth : c.month = c'.month :=
    le_antisymm (month_le_of_days_le h h' hyear hdays.le)
      (month_le_of_days_le h' h hyear.symm hdays.ge)
  have hpos := h.day_pos
  have hpos' := h'.day_pos
  rw [days_eq, days_eq, hyear, hmonth] at hdays
  exact ⟨hyear, hmonth, by omega⟩

/-! ## Seconds -/

theorem seconds_eq (h : c.IsTime) :
    c.seconds = c.days * 86400 + (c.hour * 3600 + c.minute * 60 + c.second) := by
  rw [seconds, min_eq_left h.second_le]
  push_cast
  rfl

theorem isTime_tick (h : c.IsTime) : c.tick.IsTime := by
  obtain ⟨hhour, hminute, hsecond⟩ := h
  unfold tick
  split_ifs with hs hm hh
  · exact ⟨hhour, hminute, hs⟩
  · exact ⟨hhour, hm, by simp⟩
  · exact ⟨hh, by simp, by simp⟩
  · exact ⟨by simp, by simp, by simp⟩

theorem isDay_tick (h : c.IsDay) : c.tick.IsDay := by
  unfold tick
  split_ifs
  · exact ⟨h.month_pos, h.month_le, h.day_pos, h.day_le⟩
  · exact ⟨h.month_pos, h.month_le, h.day_pos, h.day_le⟩
  · exact ⟨h.month_pos, h.month_le, h.day_pos, h.day_le⟩
  · have hnext := isDay_nextDay h
    exact ⟨hnext.month_pos, hnext.month_le, hnext.day_pos, hnext.day_le⟩

/-- Every tick adds one second. -/
theorem seconds_tick (hday : c.IsDay) (htime : c.IsTime) : c.tick.seconds = c.seconds + 1 := by
  rw [seconds_eq (isTime_tick htime), seconds_eq htime]
  obtain ⟨hhour, hminute, hsecond⟩ := htime
  unfold tick
  split_ifs with hs hm hh
  · simp only [days_eq]
    omega
  · simp only [days_eq]
    omega
  · simp only [days_eq]
    omega
  · have hnext : ({ c.nextDay with hour := 0, minute := 0, second := 0 } : Civil).days =
        c.days + 1 := days_nextDay hday
    rw [hnext]
    simp only
    omega

theorem isDay_iterate_tick (h : c.IsDay) (k : Nat) : (tick^[k] c).IsDay := by
  induction k with
  | zero => exact h
  | succ k ih =>
      rw [Function.iterate_succ_apply']
      exact isDay_tick ih

theorem isTime_iterate_tick (h : c.IsTime) (k : Nat) : (tick^[k] c).IsTime := by
  induction k with
  | zero => exact h
  | succ k ih =>
      rw [Function.iterate_succ_apply']
      exact isTime_tick ih

theorem seconds_iterate_tick (hday : c.IsDay) (htime : c.IsTime) (k : Nat) :
    (tick^[k] c).seconds = c.seconds + k := by
  induction k with
  | zero => simp
  | succ k ih =>
      rw [Function.iterate_succ_apply',
        seconds_tick (isDay_iterate_tick hday k) (isTime_iterate_tick htime k), ih]
      push_cast
      ring

/-- No two moments have the same number. -/
theorem eq_of_seconds_eq (hday : c.IsDay) (htime : c.IsTime) (hday' : c'.IsDay)
    (htime' : c'.IsTime) (h : c.seconds = c'.seconds) : c = c' := by
  rw [seconds_eq htime, seconds_eq htime'] at h
  obtain ⟨hhour, hminute, hsecond⟩ := htime
  obtain ⟨hhour', hminute', hsecond'⟩ := htime'
  have hdays : c.days = c'.days := by omega
  obtain ⟨hyear, hmonth, hday⟩ := day_eq_of_days_eq hday hday' hdays
  cases c
  cases c'
  simp only [Civil.mk.injEq]
  simp only at *
  refine ⟨hyear, hmonth, hday, ?_, ?_, ?_⟩ <;> omega

theorem isDay_epoch : epoch.IsDay :=
  ⟨by decide, by decide, by decide, by decide⟩

theorem isTime_epoch : epoch.IsTime :=
  ⟨by decide, by decide, by decide⟩

/-- The number of a moment counts the ticks from the beginning of 1970. -/
theorem apart_epoch_iff (hday : c.IsDay) (htime : c.IsTime) :
    epoch.Apart c n ↔ n = c.seconds := by
  have hepoch : epoch.seconds = 0 := by decide
  constructor
  · rintro ⟨k, ⟨rfl, rfl⟩ | ⟨rfl, hc⟩⟩
    · simp [seconds_iterate_tick isDay_epoch isTime_epoch, hepoch]
    · have hticks := seconds_iterate_tick hday htime k
      rw [hc, hepoch] at hticks
      omega
  · rintro rfl
    have hforth := seconds_iterate_tick isDay_epoch isTime_epoch c.seconds.natAbs
    have hback := seconds_iterate_tick hday htime c.seconds.natAbs
    rcases le_total 0 c.seconds with hsign | hsign
    · refine ⟨c.seconds.natAbs, .inl ⟨by omega, ?_⟩⟩
      exact eq_of_seconds_eq (isDay_iterate_tick isDay_epoch _) (isTime_iterate_tick isTime_epoch _)
        hday htime (by omega)
    · refine ⟨c.seconds.natAbs, .inr ⟨by omega, ?_⟩⟩
      exact eq_of_seconds_eq (isDay_iterate_tick hday _) (isTime_iterate_tick htime _)
        isDay_epoch isTime_epoch (by omega)

end Civil
end Timestamp
end RunnerGateway
