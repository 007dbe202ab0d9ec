/-!
# The calendar

The proleptic Gregorian calendar. Days are counted from the first of January 1970; weekdays from
Monday, which is zero. Years run from -262143 to 262142.
-/

namespace GeoFacet.Calendar

/-- A date. -/
structure Civil where
  year : Int
  month : Nat
  day : Nat
  deriving DecidableEq, Repr

def minYear : Int := -262143

def maxYear : Int := 262142

def isLeap (year : Int) : Bool := year % 4 = 0 && (year % 100 ≠ 0 || year % 400 = 0)

def daysInMonth (year : Int) (month : Nat) : Nat :=
  if month = 2 then (if isLeap year then 29 else 28)
  else if month = 4 ∨ month = 6 ∨ month = 9 ∨ month = 11 then 30
  else 31

def daysInYear (year : Int) : Nat := if isLeap year then 366 else 365

/-- The day number of a date. The year is counted from March, so that the leap day comes last. -/
def dayNumber (d : Civil) : Int :=
  let year := if d.month ≤ 2 then d.year - 1 else d.year
  let era := year / 400
  let yearOfEra := year - era * 400
  let month := if d.month ≤ 2 then d.month + 9 else d.month - 3
  let dayOfYear : Int := (153 * month + 2) / 5 + d.day - 1
  era * 146097 + (yearOfEra * 365 + yearOfEra / 4 - yearOfEra / 100 + dayOfYear) - 719468

/-- The date of a day number. -/
def ofDayNumber (n : Int) : Civil :=
  let n := n + 719468
  let era := n / 146097
  let dayOfEra := n - era * 146097
  let yearOfEra := (dayOfEra - dayOfEra / 1460 + dayOfEra / 36524 - dayOfEra / 146096) / 365
  let dayOfYear := dayOfEra - (365 * yearOfEra + yearOfEra / 4 - yearOfEra / 100)
  let fromMarch := (5 * dayOfYear + 2) / 153
  let day := dayOfYear - (153 * fromMarch + 2) / 5 + 1
  let month := if fromMarch < 10 then fromMarch + 3 else fromMarch - 9
  let year := yearOfEra + era * 400
  ⟨if month ≤ 2 then year + 1 else year, month.toNat, day.toNat⟩

/-- The date of a year, month and day, if there is one. -/
def ofParts? (year : Int) (month day : Nat) : Option Civil :=
  if minYear ≤ year ∧ year ≤ maxYear ∧ 1 ≤ month ∧ month ≤ 12 ∧ 1 ≤ day ∧
      day ≤ daysInMonth year month then
    some ⟨year, month, day⟩
  else none

/-- The date of a year and a day of that year, if there is one. -/
def ofOrdinal? (year : Int) (ordinal : Nat) : Option Civil :=
  if minYear ≤ year ∧ year ≤ maxYear ∧ 1 ≤ ordinal ∧ ordinal ≤ daysInYear year then
    some (ofDayNumber (dayNumber ⟨year, 1, 1⟩ + ordinal - 1))
  else none

/-- The day of the year, from one. -/
def ordinal (d : Civil) : Nat := (dayNumber d - dayNumber ⟨d.year, 1, 1⟩ + 1).toNat

def weekday (d : Civil) : Nat := ((dayNumber d + 3) % 7).toNat

def firstDay : Int := dayNumber ⟨minYear, 1, 1⟩

def lastDay : Int := dayNumber ⟨maxYear, 12, 31⟩

def monthNames : List String :=
  ["January", "February", "March", "April", "May", "June", "July", "August", "September",
    "October", "November", "December"]

def weekdayNames : List String :=
  ["Monday", "Tuesday", "Wednesday", "Thursday", "Friday", "Saturday", "Sunday"]

/-- The first three letters of a name. -/
def short (name : String) : String := String.ofList (name.toList.take 3)

end GeoFacet.Calendar
