/-!
Dates of the years 1 to 9999 and times of day to the microsecond. A date is also the number of days
since the first of January of year 1, counted as day 1.
-/

namespace GraphTemplate

def isLeapYear (year : Nat) : Bool := year % 4 == 0 && (year % 100 != 0 || year % 400 == 0)

def daysInMonth (year month : Nat) : Nat :=
  match month with
  | 2 => if isLeapYear year then 29 else 28
  | 4 | 6 | 9 | 11 => 30
  | _ => 31

structure Date where
  year : Nat
  month : Nat
  day : Nat
  year_pos : 1 ≤ year
  year_le : year ≤ 9999
  month_pos : 1 ≤ month
  month_le : month ≤ 12
  day_pos : 1 ≤ day
  day_le : day ≤ daysInMonth year month
  deriving DecidableEq

structure Clock where
  hour : Nat
  minute : Nat
  second : Nat
  microsecond : Nat
  hour_lt : hour < 24
  minute_lt : minute < 60
  second_lt : second < 60
  microsecond_lt : microsecond < 1000000
  deriving DecidableEq

/-- Why numbers name no date or time of day; the first part at fault is named. -/
inductive CalendarError where
  | year (year : Int)
  | month
  | day
  | hour
  | minute
  | second
  | microsecond
  deriving DecidableEq

def CalendarError.message : CalendarError → String
  | .year y => "year " ++ toString y ++ " is out of range"
  | .month => "month must be in 1..12"
  | .day => "day is out of range for month"
  | .hour => "hour must be in 0..23"
  | .minute => "minute must be in 0..59"
  | .second => "second must be in 0..59"
  | .microsecond => "microsecond must be in 0..999999"

namespace Date

def ofParts (year month day : Nat) : Except CalendarError Date :=
  if hy : 1 ≤ year ∧ year ≤ 9999 then
    if hm : 1 ≤ month ∧ month ≤ 12 then
      if hd : 1 ≤ day ∧ day ≤ daysInMonth year month then
        .ok ⟨year, month, day, hy.1, hy.2, hm.1, hm.2, hd.1, hd.2⟩
      else .error .day
    else .error .month
  else .error (.year year)

theorem ofParts_self (d : Date) : ofParts d.year d.month d.day = .ok d := by
  simp [ofParts, d.year_pos, d.year_le, d.month_pos, d.month_le, d.day_pos, d.day_le]

def daysBeforeYear (year : Nat) : Nat :=
  let y := year - 1
  365 * y + y / 4 - y / 100 + y / 400

def daysBeforeMonth (year : Nat) : Nat → Nat
  | 0 => 0
  | 1 => 0
  | month + 2 => daysBeforeMonth year (month + 1) + daysInMonth year (month + 1)

def ordinal (d : Date) : Nat := daysBeforeYear d.year + daysBeforeMonth d.year d.month + d.day

def lastOrdinal : Nat := 3652059

/-- The year that holds the day `n`: the estimate is off by one at most. -/
def yearOfOrdinal (n : Nat) : Nat :=
  let guess := n * 400 / 146097 + 1
  if n ≤ daysBeforeYear guess then guess - 1
  else if daysBeforeYear (guess + 1) < n then guess + 1
  else guess

/-- The month and day of the `n`-th day of `year`, looked for from `month` on. -/
def monthFrom (year : Nat) : Nat → Nat → Nat → Nat × Nat
  | 0, month, n => (month, n)
  | left + 1, month, n =>
    if n ≤ daysInMonth year month then (month, n)
    else monthFrom year left (month + 1) (n - daysInMonth year month)

def ofOrdinal? (n : Nat) : Option Date :=
  let year := yearOfOrdinal n
  let (month, day) := monthFrom year 11 1 (n - daysBeforeYear year)
  (ofParts year month day).toOption

end Date

namespace Clock

def ofParts (hour minute second microsecond : Nat) : Except CalendarError Clock :=
  if hh : hour < 24 then
    if hm : minute < 60 then
      if hs : second < 60 then
        if hu : microsecond < 1000000 then .ok ⟨hour, minute, second, microsecond, hh, hm, hs, hu⟩
        else .error .microsecond
      else .error .second
    else .error .minute
  else .error .hour

theorem ofParts_self (c : Clock) : ofParts c.hour c.minute c.second c.microsecond = .ok c := by
  simp [ofParts, c.hour_lt, c.minute_lt, c.second_lt, c.microsecond_lt]

def microsPerDay : Nat := 86400000000

def micros (c : Clock) : Nat :=
  ((c.hour * 60 + c.minute) * 60 + c.second) * 1000000 + c.microsecond

def ofMicros (n : Nat) : Clock where
  hour := n / 3600000000 % 24
  minute := n / 60000000 % 60
  second := n / 1000000 % 60
  microsecond := n % 1000000
  hour_lt := Nat.mod_lt _ (by decide)
  minute_lt := Nat.mod_lt _ (by decide)
  second_lt := Nat.mod_lt _ (by decide)
  microsecond_lt := Nat.mod_lt _ (by decide)

theorem micros_lt (c : Clock) : c.micros < microsPerDay := by
  have := c.hour_lt; have := c.minute_lt; have := c.second_lt; have := c.microsecond_lt
  simp only [micros, microsPerDay]
  omega

theorem ofMicros_micros (c : Clock) : ofMicros c.micros = c := by
  obtain ⟨h, m, s, u, hh, hm, hs, hu⟩ := c
  simp only [micros, ofMicros, mk.injEq]
  omega

end Clock

end GraphTemplate
