import GeoFacet.Text.Pattern.Primitive

/-!
# Character classes in patterns

A class between brackets lists characters, ranges and other classes. Two classes may be intersected,
subtracted, or joined without what they share. The first character behind the opening bracket is
taken as it is if it is a dash or a closing bracket.
-/

namespace GeoFacet.Text.Pattern

/-- How deep a part nests, and an estimate of the number of states that match it. -/
structure Measure where
  depth : Nat
  size : Nat
  deriving DecidableEq, Repr

/-- The measure of several parts side by side: none and one add no depth. -/
def Measure.join : List Measure → Measure
  | [] => ⟨0, 0⟩
  | [x] => x
  | xs => ⟨(xs.map Measure.depth).foldl max 0 + 1, (xs.map Measure.size).foldr (· + ·) 0⟩

/-- The names of the classes between colons. -/
def asciiNames : List String :=
  ["alnum", "alpha", "ascii", "blank", "cntrl", "digit", "graph", "lower", "print", "punct", "space",
    "upper", "word", "xdigit"]

/-- A class between colons, its opening bracket already read: whether it is negated, and the rest. -/
def readAscii : List Char → Option (Bool × List Char)
  | ':' :: rest =>
    let (negated, rest) : Bool × List Char := match rest with
      | '^' :: rest => (true, rest)
      | rest => (false, rest)
    match rest.dropWhile (· ≠ ':') with
    | ':' :: ']' :: after =>
      if asciiNames.contains (String.ofList (rest.takeWhile (· ≠ ':'))) then some (negated, after)
      else none
    | _ => none
  | _ => none

/-- A part of a class that is no class between brackets itself. -/
def readItem (m : Mode) : List Char → Option (Primitive × List Char)
  | '\\' :: rest => readEscape m rest
  | c :: rest => some (.literal c false, rest)
  | [] => none

/-- The character of a part that is one. Without Unicode it must be of one byte. -/
def literal? (m : Mode) : Primitive → Option Char
  | .literal c _ => if m.unicode || c.toNat < 128 then some c else none
  | _ => none

/-- The measure of a part that may stand in a class. -/
def itemMeasure? (m : Mode) (p : Primitive) : Option Measure :=
  match p with
  | .assertion => none
  | .literal c _ => (literal? m p).map fun _ => ⟨0, if c.toNat < 128 then 0 else 10⟩
  | p => if p.isSound m then some ⟨0, p.size⟩ else none

/-- A part, or a range between two characters. A dash in front of a bracket or of another dash is no
range. -/
def readRange (m : Mode) (cs : List Char) : Option (Measure × List Char) := do
  let (first, rest) ← readItem m cs
  let rest := m.skip rest
  let single : Option (Measure × List Char) := do some (← itemMeasure? m first, rest)
  match rest with
  | '-' :: more =>
    match m.skip more with
    | [] => none
    | c :: more =>
      if c = ']' ∨ c = '-' then single
      else do
        let (last, rest) ← readItem m (c :: more)
        let low ← literal? m first
        let high ← literal? m last
        if low ≤ high then some (⟨0, if high.toNat < 128 then 0 else 10⟩, rest) else none
  | _ => single

/-- Drops the dashes at the beginning of a class and counts them. -/
def dropDashes (m : Mode) : Nat → Nat → List Char → Nat × List Char
  | 0, count, cs => (count, cs)
  | fuel + 1, count, cs =>
    match cs with
    | '-' :: rest => dropDashes m fuel (count + 1) (m.skip rest)
    | cs => (count, cs)

/-- The beginning of a class behind its opening bracket: whether it is negated, how many characters
are taken as they are, and the rest. -/
def readOpening (m : Mode) (cs : List Char) : Bool × Nat × List Char :=
  let (negated, cs) : Bool × List Char := match m.skip cs with
    | '^' :: rest => (true, m.skip rest)
    | cs => (false, cs)
  let (dashes, cs) := dropDashes m cs.length 0 cs
  match dashes, cs with
  | 0, ']' :: rest => (negated, 1, m.skip rest)
  | dashes, cs => (negated, dashes, cs)

/-- What stands in front of an operator, and the parts behind it. -/
structure Operands where
  left : Option Measure
  parts : List Measure

namespace Operands

/-- The measure of all operands. -/
def measure (o : Operands) : Measure :=
  let right := Measure.join o.parts
  match o.left with
  | none => right
  | some left => ⟨max left.depth right.depth + 1, left.size + right.size⟩

def add (o : Operands) (part : Measure) : Operands := { o with parts := part :: o.parts }

end Operands

/-- A class up to its closing bracket. -/
def readClass : Nat → Mode → Operands → List Char → Option (Measure × List Char)
  | 0, _, _, _ => none
  | fuel + 1, m, o, cs =>
    match m.skip cs with
    | [] => none
    | ']' :: rest => some (⟨o.measure.depth + 1, o.measure.size + 1⟩, rest)
    | '&' :: '&' :: rest | '-' :: '-' :: rest | '~' :: '~' :: rest =>
      readClass fuel m ⟨some o.measure, []⟩ rest
    | '[' :: rest =>
      match readAscii rest with
      | some (negated, rest) =>
        if negated && !m.unicode then none else readClass fuel m (o.add ⟨0, 1⟩) rest
      | none =>
        match readOpening m rest with
        | (negated, taken, rest) =>
          if negated && !m.unicode then none
          else do
            let (inner, rest) ←
              readClass fuel m ⟨none, List.replicate taken ⟨0, 0⟩⟩ rest
            readClass fuel m (o.add inner) rest
    | cs => do
      let (part, rest) ← readRange m cs
      readClass fuel m (o.add part) rest

/-- A class whose opening bracket has been read. -/
def readBracket (m : Mode) (cs : List Char) : Option (Measure × List Char) :=
  match readOpening m cs with
  | (negated, taken, rest) =>
    if negated && !m.unicode then none
    else readClass (rest.length + 1) m ⟨none, List.replicate taken ⟨0, 0⟩⟩ rest

end GeoFacet.Text.Pattern
