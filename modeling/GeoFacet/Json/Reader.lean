import GeoFacet.Json.Basic

/-!
# Reading document text

`Json.read?` accepts exactly one value with nothing but blanks around it. A value may be nested 127
deep. Members keep their document order and may repeat, so that a reader of a structure can refuse
a key that is given twice. A number without fraction and exponent that fits 64 bits is whole; every
other number is a double, built from a 64-bit significand and one power of ten.
-/

namespace GeoFacet.Json

/-- The blanks between tokens. -/
def isBlank (c : Char) : Bool := c = ' ' || c = '\n' || c = '\t' || c = '\r'

def skipBlanks : List Char → List Char := List.dropWhile isBlank

/-! ## Numbers -/

/-- Takes digits into the significand until the next one would not fit in 64 bits. Gives the
significand and how many digits were taken. -/
def takeSignificand (significand taken : Nat) : List Char → Nat × Nat
  | [] => (significand, taken)
  | c :: rest =>
    let next := 10 * significand + (c.toNat - '0'.toNat)
    if next < UInt64.size then takeSignificand next (taken + 1) rest else (significand, taken)

/-- A magnitude times a power of ten, unless it passes the range of doubles. -/
def scaleTen? (x : Float) (power : Int) : Option Float :=
  if power.natAbs ≤ 308 then
    let ten := Float.ofScientific 1 false power.natAbs
    let y := if 0 ≤ power then x * ten else x / ten
    if y.isInf then none else some y
  else if x == 0.0 then some x
  else if 0 ≤ power then none
  else scaleTen? (x / 1e308) (power + 308)
termination_by power.natAbs

/-- The text of a number in parts. A missing fraction or exponent differs from an empty one: it
leaves a whole number whole. -/
structure NumberText where
  negative : Bool
  whole : List Char
  fraction : Option (List Char)
  exponent : Option Int
  deriving DecidableEq, Repr

namespace NumberText

/-- The value of a number, unless it passes the range of doubles. -/
def value? (t : NumberText) : Option Json :=
  let value := t.whole.foldl (fun n c => 10 * n + (c.toNat - '0'.toNat)) 0
  let fits := if t.negative then value ≠ 0 ∧ value ≤ UInt64.size / 2 else value < UInt64.size
  if t.fraction.isNone ∧ t.exponent.isNone ∧ fits then
    some (.int (if t.negative then -value else value))
  else
    let (significand, taken) := takeSignificand 0 0 t.whole
    let (significand, places) := takeSignificand significand 0 (t.fraction.getD [])
    let shift : Int := (t.whole.length - taken : Nat) - (places : Int)
    let power := t.exponent.getD 0
    let magnitude : Option Float :=
      if power.natAbs < UInt32.size / 2 then scaleTen? significand.toUInt64.toFloat (power + shift)
      else if significand ≠ 0 ∧ 0 < power then none
      else some 0.0
    magnitude.map fun x => .float (if t.negative then -x else x)

end NumberText

/-- The parts of a number at the front of the text, and the rest. -/
def readNumberText? (cs : List Char) : Option (NumberText × List Char) := do
  let (negative, cs) := match cs with
    | '-' :: rest => (true, rest)
    | _ => (false, cs)
  let whole := cs.takeWhile Char.isDigit
  let cs := cs.dropWhile Char.isDigit
  if whole.isEmpty || (whole.head? = some '0' && whole.length ≠ 1) then failure
  let (fraction, cs) ← match cs with
    | '.' :: rest =>
      let digits := rest.takeWhile Char.isDigit
      if digits.isEmpty then failure else some (some digits, rest.dropWhile Char.isDigit)
    | _ => some (none, cs)
  let (exponent, cs) ← match cs with
    | c :: rest =>
      if c = 'e' ∨ c = 'E' then
        let (minus, rest) := splitSign rest
        let n ← digitsValue? (rest.takeWhile Char.isDigit)
        some (some (if minus then -(n : Int) else n), rest.dropWhile Char.isDigit)
      else some (none, cs)
    | [] => some (none, cs)
  some (⟨negative, whole, fraction, exponent⟩, cs)

/-- A number at the front of the text, and the rest. -/
def readNumber? (cs : List Char) : Option (Json × List Char) := do
  let (t, rest) ← readNumberText? cs
  some (← t.value?, rest)

/-! ## Texts -/

/-- Four hexadecimal digits at the front of the text. -/
def readHex? : List Char → Option (Nat × List Char)
  | a :: b :: c :: d :: rest => do
    let a ← hexDigit? a
    let b ← hexDigit? b
    let c ← hexDigit? c
    let d ← hexDigit? d
    some (((a * 16 + b) * 16 + c) * 16 + d, rest)
  | _ => none

/-- The character after `\u`; two escapes make one character beyond the basic plane, and half a pair
is refused. -/
def readUnicode? (cs : List Char) : Option (Char × List Char) := do
  let (high, rest) ← readHex? cs
  if 0xD800 ≤ high ∧ high < 0xDC00 then
    match rest with
    | '\\' :: 'u' :: rest =>
      let (low, rest) ← readHex? rest
      if 0xDC00 ≤ low ∧ low < 0xE000 then
        some (Char.ofNat (0x10000 + (high - 0xD800) * 0x400 + (low - 0xDC00)), rest)
      else none
    | _ => none
  else if 0xDC00 ≤ high ∧ high < 0xE000 then none
  else some (Char.ofNat high, rest)

/-- The character of a one-letter escape. -/
def shortEscape? : Char → Option Char
  | '"' => some '"'
  | '\\' => some '\\'
  | '/' => some '/'
  | 'b' => some '\x08'
  | 'f' => some '\x0c'
  | 'n' => some '\n'
  | 'r' => some '\r'
  | 't' => some '\t'
  | _ => none

/-- The text up to the closing quote, and the rest. The characters read so far stand in reverse. -/
def readText? : Nat → List Char → List Char → Option (String × List Char)
  | 0, _, _ => none
  | fuel + 1, acc, cs =>
    match cs with
    | '"' :: rest => some (String.ofList acc.reverse, rest)
    | '\\' :: 'u' :: rest => do
      let (c, rest) ← readUnicode? rest
      readText? fuel (c :: acc) rest
    | '\\' :: c :: rest => do
      let c ← shortEscape? c
      readText? fuel (c :: acc) rest
    | c :: rest => if c.toNat < 32 then none else readText? fuel (c :: acc) rest
    | [] => none

/-! ## Values -/

/-- The rest after a given word. -/
def dropWord? : List Char → List Char → Option (List Char)
  | [], cs => some cs
  | w :: word, c :: cs => if w = c then dropWord? word cs else none
  | _ :: _, [] => none

mutual

/-- A value after blanks, nested at most `depth` deep, and the rest. -/
def readValue? : Nat → Nat → List Char → Option (Json × List Char)
  | 0, _, _ => none
  | fuel + 1, depth, cs =>
    match skipBlanks cs with
    | '"' :: rest => (readText? (rest.length + 1) [] rest).map fun (s, rest) => (.text s, rest)
    | '[' :: rest =>
      match depth with
      | 0 => none
      | depth + 1 =>
        match skipBlanks rest with
        | ']' :: rest => some (.list [], rest)
        | rest => (readItems? fuel depth [] rest).map fun (vs, rest) => (.list vs, rest)
    | '\x7b' :: rest =>
      match depth with
      | 0 => none
      | depth + 1 =>
        match skipBlanks rest with
        | '\x7d' :: rest => some (.object [], rest)
        | rest => (readMembers? fuel depth [] rest).map fun (ms, rest) => (.object ms, rest)
    | 'n' :: rest => (dropWord? "ull".toList rest).map fun rest => (.null, rest)
    | 't' :: rest => (dropWord? "rue".toList rest).map fun rest => (.bool true, rest)
    | 'f' :: rest => (dropWord? "alse".toList rest).map fun rest => (.bool false, rest)
    | rest => readNumber? rest

/-- Items up to the closing bracket; those read so far stand in reverse. -/
def readItems? : Nat → Nat → List Json → List Char → Option (List Json × List Char)
  | 0, _, _, _ => none
  | fuel + 1, depth, acc, cs =>
    match readValue? fuel depth cs with
    | none => none
    | some (v, rest) =>
      match skipBlanks rest with
      | ',' :: rest => readItems? fuel depth (v :: acc) rest
      | ']' :: rest => some ((v :: acc).reverse, rest)
      | _ => none

/-- Members up to the closing brace; those read so far stand in reverse. -/
def readMembers? : Nat → Nat → List (String × Json) → List Char →
    Option (List (String × Json) × List Char)
  | 0, _, _, _ => none
  | fuel + 1, depth, acc, cs =>
    match skipBlanks cs with
    | '"' :: rest =>
      match readText? (rest.length + 1) [] rest with
      | none => none
      | some (key, rest) =>
        match skipBlanks rest with
        | ':' :: rest =>
          match readValue? fuel depth rest with
          | none => none
          | some (v, rest) =>
            match skipBlanks rest with
            | ',' :: rest => readMembers? fuel depth ((key, v) :: acc) rest
            | '\x7d' :: rest => some (((key, v) :: acc).reverse, rest)
            | _ => none
        | _ => none
    | _ => none

end

/-- The greatest depth of nesting. -/
def maxDepth : Nat := 127

/-- The value a text holds. Every step of the reader passes a character or goes one level down, so
twice the length bounds the steps. -/
def read? (text : String) : Option Json :=
  let cs := text.toList
  match readValue? (2 * cs.length + 2) maxDepth cs with
  | some (v, rest) => if (skipBlanks rest).isEmpty then some v else none
  | none => none

end GeoFacet.Json
