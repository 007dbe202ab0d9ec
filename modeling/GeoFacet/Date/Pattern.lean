import GeoFacet.Fault

/-!
# Date patterns

A pattern writes a date field as a run of one letter, `yyyy-MM-dd'T'HH:mm`; text in single quotes
and everything that is no ASCII letter stands for itself. A pattern is read into items, and every
item has a directive form, `%Y-%m-%dT%H:%M`, in which a percent sign is doubled.
-/

namespace GeoFacet

/-- A field of a date pattern. -/
inductive DateField where
  | year | shortYear
  | month | shortMonthName | monthName
  | day | dayOfYear
  | hour | hour12 | minute | second | millisecond | halfDay
  | shortWeekdayName | weekdayName
  | offset
  deriving DecidableEq, Repr

/-- An item of a date pattern. -/
inductive DateItem where
  | field (f : DateField)
  | literal (c : Char)
  deriving DecidableEq, Repr

namespace DateField

/-- The directive of a field. -/
def directive : DateField → List Char
  | year => ['%', 'Y']
  | shortYear => ['%', 'y']
  | month => ['%', 'm']
  | shortMonthName => ['%', 'b']
  | monthName => ['%', 'B']
  | day => ['%', 'd']
  | dayOfYear => ['%', 'j']
  | hour => ['%', 'H']
  | hour12 => ['%', 'I']
  | minute => ['%', 'M']
  | second => ['%', 'S']
  | millisecond => ['%', '3', 'f']
  | halfDay => ['%', 'p']
  | shortWeekdayName => ['%', 'a']
  | weekdayName => ['%', 'A']
  | offset => ['%', 'z']

/-- The field that a run of a letter stands for. -/
def ofRun? (letter : Char) (length : Nat) : Option DateField :=
  match letter with
  | 'y' => some (if length = 2 then shortYear else year)
  | 'Y' | 'u' => some year
  | 'M' => some (if length ≤ 2 then month else if length = 3 then shortMonthName else monthName)
  | 'd' => some day
  | 'D' => some dayOfYear
  | 'H' => some hour
  | 'h' => some hour12
  | 'm' => some minute
  | 's' => some second
  | 'S' => some millisecond
  | 'a' => some halfDay
  | 'E' => some (if length ≤ 3 then shortWeekdayName else weekdayName)
  | 'Z' => some offset
  | _ => none

end DateField

namespace DateItem

/-- The directive form of an item. -/
def directive : DateItem → List Char
  | field f => f.directive
  | literal c => if c = '%' then ['%', '%'] else [c]

end DateItem

namespace DatePattern

/-- Why a pattern is refused. -/
inductive Flaw where
  | unterminated
  | letter (c : Char)
  deriving DecidableEq, Repr

/-- The items after a place of the scanner, if the rest of the pattern is sound. -/
abbrev Rest := Except Flaw (List DateItem)

/-- The place of the scanner: outside, inside quotes, or in a run of a letter. -/
inductive Scan where
  | outside
  | quoted
  | run (letter : Char) (length : Nat)
  deriving DecidableEq, Repr

namespace Scan

/-- Where a character leads that continues no run. -/
def start (c : Char) : Scan :=
  if c = '\'' then quoted else if c.isAlpha then run c 1 else outside

/-- Where a character leads. -/
def next : Scan → Char → Scan
  | outside, c => start c
  | quoted, c => if c = '\'' then outside else quoted
  | run letter length, c => if c = letter then run letter (length + 1) else start c

/-- Puts the field of a finished run in front. -/
def closeRun (letter : Char) (length : Nat) (rest : Rest) : Rest :=
  match DateField.ofRun? letter length with
  | some f => rest.map (.field f :: ·)
  | none => .error (.letter letter)

/-- Puts a character in front that stands for itself outside quotes. -/
def keep (c : Char) (rest : Rest) : Rest :=
  if c = '\'' ∨ c.isAlpha then rest else rest.map (.literal c :: ·)

/-- Puts in front what a character completes. -/
def emit : Scan → Char → Rest → Rest
  | outside, c, rest => keep c rest
  | quoted, c, rest => if c = '\'' then rest else rest.map (.literal c :: ·)
  | run letter length, c, rest =>
    if c = letter then rest else closeRun letter length (keep c rest)

/-- What the end of the pattern completes. -/
def finish : Scan → Rest
  | outside => .ok []
  | quoted => .error .unterminated
  | run letter length => closeRun letter length (.ok [])

end Scan

/-- The items of a pattern from a place of the scanner on. -/
def scan (place : Scan) : List Char → Rest
  | [] => place.finish
  | c :: cs => place.emit c (scan (place.next c) cs)

/-- The items of a pattern. -/
def items (pattern : String) : Outcome (List DateItem) :=
  match scan .outside pattern.toList with
  | .ok items => .ok items
  | .error .unterminated => refuse (.unterminatedLiteral pattern)
  | .error (.letter c) => refuse (.unsupportedLetter c pattern)

/-- The directive form of a list of items. -/
def directives (items : List DateItem) : String := String.ofList (items.flatMap DateItem.directive)

end DatePattern

end GeoFacet
