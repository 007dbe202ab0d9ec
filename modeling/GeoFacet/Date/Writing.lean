import GeoFacet.Date.Calendar
import GeoFacet.Date.Pattern
import GeoFacet.Decimal.Layout

/-!
# Writing dates

An instant is a number of milliseconds since the first of January 1970 and is written in universal
time. Numbers are padded with zeros to the width of their field; a year outside four digits has a
sign.
-/

namespace GeoFacet.DatePattern

/-- A number with zeros in front up to a width. -/
def padded (width n : Nat) : List Char :=
  let digits := digitsOf n
  List.replicate (width - digits.length) '0' ++ digits

/-- A year of four digits, or one with a sign. -/
def yearText (year : Int) : List Char :=
  if 0 ≤ year ∧ year ≤ 9999 then padded 4 year.toNat
  else (if year < 0 then '-' else '+') :: padded 4 year.natAbs

/-- The text of a field at an instant. -/
def fieldText (millis : Int) (f : DateField) : List Char :=
  let date := Calendar.ofDayNumber (millis / 86400000)
  let time := (millis % 86400000).toNat
  let hour := time / 3600000
  let monthName := Calendar.monthNames.getD (date.month - 1) ""
  let weekdayName := Calendar.weekdayNames.getD (Calendar.weekday date) ""
  match f with
  | .year => yearText date.year
  | .shortYear => padded 2 (date.year % 100).toNat
  | .month => padded 2 date.month
  | .shortMonthName => (Calendar.short monthName).toList
  | .monthName => monthName.toList
  | .day => padded 2 date.day
  | .dayOfYear => padded 3 (Calendar.ordinal date)
  | .hour => padded 2 hour
  | .hour12 => padded 2 (if hour % 12 = 0 then 12 else hour % 12)
  | .minute => padded 2 (time / 60000 % 60)
  | .second => padded 2 (time / 1000 % 60)
  | .millisecond => padded 3 (time % 1000)
  | .halfDay => (if hour < 12 then "AM" else "PM").toList
  | .shortWeekdayName => (Calendar.short weekdayName).toList
  | .weekdayName => weekdayName.toList
  | .offset => "+0000".toList

/-- The text of the items at an instant, if the calendar reaches it. -/
def write? (items : List DateItem) (millis : Int) : Option String :=
  let day := millis / 86400000
  if Calendar.firstDay ≤ day ∧ day ≤ Calendar.lastDay then
    some (String.ofList (items.flatMap fun
      | .field f => fieldText millis f
      | .literal c => [c]))
  else none

end GeoFacet.DatePattern
