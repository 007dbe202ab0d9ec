import GeoFacet.Text.Pattern.Bracket

/-!
# Patterns

The patterns that restrict the keys of term facets are regular expressions that match in linear
time: neither look-around nor back-references are part of them. A pattern is read to a measure of
its parts, since it may neither nest too deep nor grow too large when its repetitions are written
out.
-/

namespace GeoFacet.Text.Pattern

/-! ## Groups -/

/-- What an opening parenthesis begins. -/
inductive Opening where
  /-- flags for the rest of the group around it -/
  | flags (m : Mode)
  | group (m : Mode) (captures : Bool) (name : Option (List Char))

/-- The mode after a flag was set or taken back. -/
def Mode.setFlag (m : Mode) (flag : Char) (value : Bool) : Mode :=
  if flag = 'x' then { m with spaced := value }
  else if flag = 'u' then { m with unicode := value }
  else m

/-- Flags up to a colon or a parenthesis: whether there are any, the mode they leave, the character
that ends them, and the rest. None may be given twice, and a minus must have flags behind it. -/
def readFlags (m : Mode) (seen : List Char) (negated dangling : Bool) :
    List Char → Option (Bool × Mode × Char × List Char)
  | [] => none
  | c :: rest =>
    if c = ':' ∨ c = ')' then
      if dangling then none else some (!seen.isEmpty || negated, m, c, rest)
    else if c = '-' then if negated then none else readFlags m seen true true rest
    else if "imsURux".toList.contains c && !seen.contains c then
      readFlags (m.setFlag c (!negated)) (c :: seen) negated false rest
    else none

/-- Whether a character may be part of a name. Beyond ASCII all that is neither blank nor in the
blocks of punctuation, symbols and pictures counts as a letter. -/
def isNameLetter (c : Char) : Bool :=
  let n := c.toNat
  c.isAlpha || c = '_' || n = 0xAA || n = 0xB5 || n = 0xBA ||
    (0xC0 ≤ n && n ≠ 0xD7 && n ≠ 0xF7 && !isSpace c && !(0x2000 ≤ n && n < 0x2C00) &&
      !(0x2E00 ≤ n && n < 0x2E80) && !(0x3000 ≤ n && n < 0x3021) && !(0x1F000 ≤ n && n < 0x20000))

/-- The name of a group up to the angle bracket, and the rest. -/
def readName (cs : List Char) : Option (List Char × List Char) :=
  match cs.takeWhile (· ≠ '>'), cs.dropWhile (· ≠ '>') with
  | first :: others, _ :: rest =>
    if isNameLetter first &&
        others.all (fun c => isNameLetter c || c.isDigit || ['.', '[', ']'].contains c) then
      some (first :: others, rest)
    else none
  | _, _ => none

/-- What stands behind an opening parenthesis. -/
def readGroup (m : Mode) (cs : List Char) : Option (Opening × List Char) :=
  let named (cs : List Char) : Option (Opening × List Char) := do
    let (name, rest) ← readName cs
    some (.group m true (some name), rest)
  match m.skip cs with
  | '?' :: '=' :: _ | '?' :: '!' :: _ | '?' :: '<' :: '=' :: _ | '?' :: '<' :: '!' :: _ => none
  | '?' :: 'P' :: '<' :: rest | '?' :: '<' :: rest => named rest
  | '?' :: rest => do
    let (given, inner, last, rest) ← readFlags m [] false false rest
    if last = ':' then some (.group inner false none, rest)
    else if given then some (.flags inner, rest)
    else none
  | rest => some (.group m true none, rest)

/-! ## Repetitions -/

/-- Digits, and the rest; the value so far is given. -/
def readDigits (m : Mode) (value : Nat) (cs : List Char) : Nat × List Char :=
  match h : m.skip cs with
  | [] => (value, [])
  | c :: rest =>
    have := m.length_of_skip_eq_cons h
    if c.isDigit then readDigits m (10 * value + (c.toNat - '0'.toNat)) rest
    else (value, c :: rest)
termination_by cs.length

/-- A number below `2^32`, blanks allowed around it. -/
def readNumber (m : Mode) (cs : List Char) : Option (Nat × List Char) :=
  let cs := cs.dropWhile isSpace
  match m.skip cs with
  | c :: _ =>
    if c.isDigit then
      let (value, rest) := readDigits m 0 cs
      if value < UInt32.size then some (value, m.skip (rest.dropWhile isSpace)) else none
    else none
  | [] => none

/-- How often a part is repeated: the counts up to the closing brace, and the rest. -/
def readCounts (m : Mode) (cs : List Char) : Option (Nat × Option Nat × List Char) := do
  let (low, rest) ← readNumber m (m.skip cs)
  match rest with
  | '\x7d' :: rest => some (low, some low, rest)
  | ',' :: rest =>
    match m.skip rest with
    | '\x7d' :: rest => some (low, none, rest)
    | rest => do
      let (high, rest) ← readNumber m rest
      match rest with
      | '\x7d' :: rest => if low ≤ high then some (low, some high, rest) else none
      | _ => none
  | _ => none

/-- Drops the mark of a repetition that takes as little as it can. -/
def dropLazy : List Char → List Char
  | '?' :: rest => rest
  | cs => cs

namespace Measure

/-- The measure of a repeated part. -/
def repeated (x : Measure) : Measure := ⟨x.depth + 1, x.size + 1⟩

/-- The measure of a part repeated between some numbers of times. -/
def counted (x : Measure) (low : Nat) (high : Option Nat) : Measure :=
  ⟨x.depth + 1, match high with
    | some high => high * x.size + (high - low)
    | none => max low 1 * x.size + 1⟩

/-- The measure of a group. -/
def grouped (x : Measure) (captures : Bool) : Measure :=
  ⟨x.depth + 1, if captures && x.size ≠ 0 then x.size + 2 else x.size⟩

end Measure

/-! ## Whole patterns -/

/-- The branches of a group that are complete, and the parts of the one being read, the last part
first. Flags stand among the parts without a measure, since they cannot be repeated. -/
structure Branches where
  complete : List Measure
  parts : List (Option Measure)

namespace Branches

def empty : Branches := ⟨[], []⟩

def add (b : Branches) (part : Measure) : Branches := { b with parts := some part :: b.parts }

def addFlags (b : Branches) : Branches := { b with parts := none :: b.parts }

/-- The measures of all branches. -/
def closed (b : Branches) : List Measure :=
  Measure.join (b.parts.map (·.getD ⟨0, 0⟩)) :: b.complete

def next (b : Branches) : Branches := ⟨b.closed, []⟩

/-- Changes the last part, if it can be repeated. -/
def repeatLast? (b : Branches) (f : Measure → Measure) : Option Branches :=
  match b.parts with
  | some part :: others => some { b with parts := some (f part) :: others }
  | _ => none

end Branches

/-- The rest of a group, or of the pattern if it is in no group: its measure, the names of groups
used so far, and what follows. -/
def readBranches : Nat → Mode → Bool → List (List Char) → Branches → List Char →
    Option (Measure × List (List Char) × List Char)
  | 0, _, _, _, _, _ => none
  | fuel + 1, m, inGroup, names, b, cs =>
    match m.skip cs with
    | [] => if inGroup then none else some (Measure.join b.closed, names, [])
    | ')' :: rest => if inGroup then some (Measure.join b.closed, names, rest) else none
    | '|' :: rest => readBranches fuel m inGroup names b.next rest
    | '(' :: rest => do
      match ← readGroup m rest with
      | (.flags m, rest) => readBranches fuel m inGroup names b.addFlags rest
      | (.group inner captures name, rest) =>
        if name.any names.contains then none
        else
          let (part, names, rest) ←
            readBranches fuel inner true (name.toList ++ names) .empty rest
          readBranches fuel m inGroup names (b.add (part.grouped captures)) rest
    | '[' :: rest => do
      let (part, rest) ← readBracket m rest
      readBranches fuel m inGroup names (b.add part) rest
    | '\x7b' :: rest => do
      let (low, high, rest) ← readCounts m rest
      readBranches fuel m inGroup names (← b.repeatLast? (·.counted low high))
        (dropLazy (m.skip rest))
    | '\\' :: rest => do
      let (part, rest) ← readEscape m rest
      if part.isSound m then readBranches fuel m inGroup names (b.add ⟨0, part.size⟩) rest else none
    | c :: rest =>
      if c = '?' ∨ c = '*' ∨ c = '+' then do
        readBranches fuel m inGroup names (← b.repeatLast? Measure.repeated) (dropLazy rest)
      else if c = '.' then
        if m.unicode then readBranches fuel m inGroup names (b.add ⟨0, 10⟩) rest else none
      else if c = '^' ∨ c = '$' then readBranches fuel m inGroup names (b.add ⟨0, 0⟩) rest
      else readBranches fuel m inGroup names (b.add ⟨0, c.utf8Size⟩) rest

/-- The greatest depth of nesting. -/
def maxDepth : Nat := 250

/-- The greatest number of states. -/
def maxSize : Nat := 327000

/-- Whether a text is a pattern. -/
def isValid (pattern : String) : Bool :=
  let cs := pattern.toList
  match readBranches (cs.length + 1) ⟨false, true⟩ false [] .empty cs with
  | some (x, _, _) => x.depth ≤ maxDepth && x.size ≤ maxSize
  | none => false

end GeoFacet.Text.Pattern
