import GeoFacet.Date.Calendar
import GeoFacet.Date.Pattern
import GeoFacet.Decimal.Read
import GeoFacet.Text.Blank

/-!
# Reading dates

A text is read item by item. A number takes as many digits as its field has at most, after any white
space; a year may have a sign and then any number of digits. Names are read in any case. White space
in the pattern stands for any white space. What two items say about one part of the date must agree.

The parts then make an instant with an offset, an instant without one, or a date, whichever comes
first.
-/

namespace GeoFacet.DatePattern

/-- The parts of a date that were read. -/
structure Parts where
  year : Option Int := none
  shortYear : Option Nat := none
  month : Option Nat := none
  day : Option Nat := none
  dayOfYear : Option Nat := none
  weekday : Option Nat := none
  /-- zero before noon and one after -/
  half : Option Nat := none
  /-- the hour within its half of the day -/
  hour : Option Nat := none
  minute : Option Nat := none
  second : Option Nat := none
  millisecond : Option Nat := none
  /-- seconds east of universal time -/
  offset : Option Int := none

/-! ## Items -/

/-- Sets a part that is unset, or agrees with one that is set. -/
def agree? {α : Type} [DecidableEq α] (old : Option α) (new : α) : Option (Option α) :=
  match old with
  | none => some (some new)
  | some a => if a = new then some (some new) else none

/-- From one to `width` digits at the front, as a number of 63 bits. -/
def readDigits? (width : Nat) (cs : List Char) : Option (Nat × List Char) := do
  let digits := (cs.take width).takeWhile Char.isDigit
  let n ← digitsValue? digits
  if n < UInt64.size / 2 then some (n, cs.drop digits.length) else none

def skipSpace (cs : List Char) : List Char := cs.dropWhile Text.isSpace

/-- A number of at most `width` digits between two bounds, after white space. -/
def readBounded? (width low high : Nat) (cs : List Char) : Option (Nat × List Char) := do
  let (n, rest) ← readDigits? width (skipSpace cs)
  if low ≤ n ∧ n ≤ high then some (n, rest) else none

/-- A year of four digits, or one with a sign and any number of digits, within 32 bits. -/
def readYear? (cs : List Char) : Option (Int × List Char) := do
  let cs := skipSpace cs
  let (year, rest) ← match cs with
    | '-' :: rest => (readDigits? rest.length rest).map fun (n, r) => (-(n : Int), r)
    | '+' :: rest => (readDigits? rest.length rest).map fun (n, r) => ((n : Int), r)
    | _ => (readDigits? 4 cs).map fun (n, r) => ((n : Int), r)
  if Int32.minValue.toInt ≤ year ∧ year ≤ Int32.maxValue.toInt then some (year, rest) else none

/-- The rest after a word in any case, if the text begins with it. -/
def dropWord? (word cs : List Char) : Option (List Char) :=
  Text.dropStart? (word.map Char.toLower) (cs.map Char.toLower) |>.map fun _ => cs.drop word.length

/-- The place of the name whose first three letters the text begins with. The rest of the name is
dropped too if it is `long` and follows. -/
def readName? (names : List String) (long : Bool) (cs : List Char) : Option (Nat × List Char) :=
  (names.zipIdx).findSome? fun (name, i) =>
    (dropWord? (name.toList.take 3) cs).map fun rest =>
      (i, if long then (dropWord? (name.toList.drop 3) rest).getD rest else rest)

/-- An offset: a sign, two digits of hours, white space or colons, and two digits of minutes. -/
def readOffset? (cs : List Char) : Option (Int × List Char) := do
  let (negative, rest) ← match skipSpace cs with
    | '+' :: rest => some (false, rest)
    | '-' :: rest => some (true, rest)
    | '\u2212' :: rest => some (true, rest)
    | _ => none
  let hours ← digitsValue? (rest.take 2)
  if rest.length < 2 then failure
  let rest := (rest.drop 2).dropWhile fun c => c = ':' || Text.isSpace c
  let minutes ← digitsValue? (rest.take 2)
  if rest.length < 2 ∨ 60 ≤ minutes then failure
  let seconds : Int := 3600 * hours + 60 * minutes
  some (if negative then -seconds else seconds, rest.drop 2)

/-- Reads one field into the parts. -/
def readField? (f : DateField) (p : Parts) (cs : List Char) : Option (Parts × List Char) :=
  match f with
  | .year => do
    let (n, rest) ← readYear? cs
    some ({ p with year := ← agree? p.year n }, rest)
  | .shortYear => do
    let (n, rest) ← readBounded? 2 0 99 cs
    some ({ p with shortYear := ← agree? p.shortYear n }, rest)
  | .month => do
    let (n, rest) ← readBounded? 2 1 12 cs
    some ({ p with month := ← agree? p.month n }, rest)
  | .shortMonthName => do
    let (i, rest) ← readName? Calendar.monthNames false cs
    some ({ p with month := ← agree? p.month (i + 1) }, rest)
  | .monthName => do
    let (i, rest) ← readName? Calendar.monthNames true cs
    some ({ p with month := ← agree? p.month (i + 1) }, rest)
  | .day => do
    let (n, rest) ← readBounded? 2 1 31 cs
    some ({ p with day := ← agree? p.day n }, rest)
  | .dayOfYear => do
    let (n, rest) ← readBounded? 3 1 366 cs
    some ({ p with dayOfYear := ← agree? p.dayOfYear n }, rest)
  | .hour => do
    let (n, rest) ← readBounded? 2 0 23 cs
    some ({ p with half := ← agree? p.half (n / 12), hour := ← agree? p.hour (n % 12) }, rest)
  | .hour12 => do
    let (n, rest) ← readBounded? 2 1 12 cs
    some ({ p with hour := ← agree? p.hour (n % 12) }, rest)
  | .minute => do
    let (n, rest) ← readBounded? 2 0 59 cs
    some ({ p with minute := ← agree? p.minute n }, rest)
  | .second => do
    let (n, rest) ← readBounded? 2 0 60 cs
    some ({ p with second := ← agree? p.second n }, rest)
  | .millisecond => do
    let n ← digitsValue? (cs.take 3)
    if cs.length < 3 then failure
    some ({ p with millisecond := ← agree? p.millisecond n }, cs.drop 3)
  | .halfDay =>
    match dropWord? ['a', 'm'] cs with
    | some rest => (agree? p.half 0).map fun half => ({ p with half }, rest)
    | none => do
      let rest ← dropWord? ['p', 'm'] cs
      some ({ p with half := ← agree? p.half 1 }, rest)
  | .shortWeekdayName => do
    let (i, rest) ← readName? Calendar.weekdayNames false cs
    some ({ p with weekday := ← agree? p.weekday i }, rest)
  | .weekdayName => do
    let (i, rest) ← readName? Calendar.weekdayNames true cs
    some ({ p with weekday := ← agree? p.weekday i }, rest)
  | .offset => do
    let (n, rest) ← readOffset? cs
    some ({ p with offset := ← agree? p.offset n }, rest)

/-- Reads the items one after the other; nothing may be left of the text. -/
def readItems? (p : Parts) : List DateItem → List Char → Option Parts
  | [], cs => if cs.isEmpty then some p else none
  | .field f :: items, cs =>
    match readField? f p cs with
    | some (p, rest) => readItems? p items rest
    | none => none
  | .literal c :: items, cs =>
    if Text.isSpace c then readItems? p items (skipSpace cs)
    else match cs with
      | d :: rest => if c = d then readItems? p items rest else none
      | [] => none

/-! ## Parts -/

namespace Parts

/-- The year: the full one, which a two-digit one must end, or a two-digit one between 1970 and
2069. -/
def fullYear? (p : Parts) : Option Int :=
  match p.year, p.shortYear with
  | some y, none => some y
  | some y, some r => if 0 ≤ y ∧ y % 100 = r then some y else none
  | none, some r => some (if r < 70 then 2000 + r else 1900 + r)
  | none, none => none

/-- The day number of the date that the parts make, from year, month and day or else from year and
day of the year. Every other part must agree with it. -/
def dayNumber? (p : Parts) : Option Int := do
  let year ← p.fullYear?
  let date ← match p.month, p.day with
    | some month, some day => Calendar.ofParts? year month day
    | _, _ => (p.dayOfYear.bind fun ordinal => Calendar.ofOrdinal? year ordinal)
  if p.month.getD date.month = date.month ∧ p.day.getD date.day = date.day ∧
      p.weekday.getD (Calendar.weekday date) = Calendar.weekday date ∧
      p.dayOfYear.getD (Calendar.ordinal date) = Calendar.ordinal date then
    some (Calendar.dayNumber date)
  else none

/-- Milliseconds since midnight. Hour and minute must be there; milliseconds need a second, and the
sixtieth second is a leap second. -/
def time? (p : Parts) : Option Nat := do
  let half ← p.half
  let hour ← p.hour
  let minute ← p.minute
  if p.millisecond.isSome ∧ p.second.isNone then failure
  some ((((12 * half + hour) * 60 + minute) * 60 + p.second.getD 0) * 1000 + p.millisecond.getD 0)

/-- Milliseconds since midnight of the first of January 1970, without regard to the offset. -/
def local? (p : Parts) : Option Int := do
  let day ← p.dayNumber?
  let time ← p.time?
  some (86400000 * day + time)

/-- The instant in universal time. The offset is less than a day, and the calendar must reach the
instant. -/
def universal? (p : Parts) : Option Int := do
  let offset ← p.offset
  let here ← p.local?
  let millis := here - 1000 * offset
  if offset.natAbs < 86400 ∧ Calendar.firstDay ≤ millis / 86400000 ∧
      millis / 86400000 ≤ Calendar.lastDay then
    some millis
  else none

/-- The instant of the parts: with their offset, without it, or at midnight of their date. -/
def instant? (p : Parts) : Option Int :=
  p.universal? <|> p.local? <|> p.dayNumber?.map (86400000 * ·)

end Parts

/-- The instant a text denotes. -/
def read? (items : List DateItem) (text : String) : Option Int :=
  (readItems? {} items text.toList).bind Parts.instant?

end GeoFacet.DatePattern
