namespace Storyline.Time

structure Date where
  year : Nat
  month : Nat
  day : Nat
  deriving DecidableEq

def isLeap (year : Nat) : Bool := year % 4 == 0 && (year % 100 != 0 || year % 400 == 0)

def daysBeforeYear (year : Nat) : Nat :=
  let y := year - 1
  365 * y + y / 4 - y / 100 + y / 400

def monthLength (year month : Nat) : Nat :=
  if month == 2 then (if isLeap year then 29 else 28)
  else if [4, 6, 9, 11].contains month then 30
  else 31

def daysBeforeMonth (year : Nat) : Nat → Nat
  | 0 | 1 => 0
  | month + 1 => daysBeforeMonth year month + monthLength year month

def Date.isValid (d : Date) : Bool :=
  1 ≤ d.year && d.year ≤ 9999 && 1 ≤ d.month && d.month ≤ 12 && 1 ≤ d.day &&
    d.day ≤ monthLength d.year d.month

def Date.dayNumber (d : Date) : Nat :=
  daysBeforeYear d.year + daysBeforeMonth d.year d.month + (d.day - 1)

def yearFrom (day : Nat) : Nat → Nat → Nat
  | 0, year => year
  | tries + 1, year => if daysBeforeYear (year + 1) ≤ day then yearFrom day tries (year + 1) else year

/-- The year of a day. Years are at most a day longer than 365 days, so few have to be tried. -/
def yearOf (day : Nat) : Nat := yearFrom day 40 (day / 366 + 1)

/-- The first of the coming months that does not end before a day of the year. -/
def monthFrom (year day : Nat) : Nat → Nat → Nat
  | 0, month => month
  | tries + 1, month =>
    if daysBeforeMonth year (month + 1) ≤ day then monthFrom year day tries (month + 1) else month

def Date.ofDayNumber (day : Nat) : Date :=
  let year := yearOf day
  let rest := day - daysBeforeYear year
  let month := monthFrom year rest 11 1
  ⟨year, month, rest - daysBeforeMonth year month + 1⟩

/-- The first of January of the year 1 was a Monday, so Mondays have the number zero. -/
def weekday (day : Nat) : Nat := day % 7

/-- A year has a fifty-third week if it starts on a Thursday, or on a Wednesday and is leap. -/
def hasWeek53 (year : Nat) : Bool :=
  let first := weekday (daysBeforeYear year)
  first == 3 || (first == 2 && isLeap year)

/-- The Monday of the week that holds the first Thursday of a year, counted in days. -/
def firstMonday (year : Nat) : Int :=
  let first := daysBeforeYear year
  let monday : Int := first - weekday first
  if 3 < weekday first then monday + 7 else monday

def Date.ofWeek? (year week weekday : Nat) : Option Date :=
  if year < 1 ∨ week < 1 ∨ 53 < week ∨ (week = 53 ∧ !hasWeek53 year) ∨ weekday < 1 ∨ 7 < weekday then
    none
  else
    let day := firstMonday year + (week - 1) * 7 + weekday - 1
    if day < 0 then none else some (.ofDayNumber day.toNat)

/-- The day of the first of January 1970, from which moments are counted. -/
def epochDay : Nat := 719162

end Storyline.Time
