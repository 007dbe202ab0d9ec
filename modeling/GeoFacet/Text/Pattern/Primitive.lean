import GeoFacet.Decimal.Read
import GeoFacet.Text.Pattern.Property

/-!
# Escapes in patterns

The smallest parts of a pattern: characters, positions and classes that are written with a
backslash. Back-references are no part of the language, since matching takes linear time.
-/

namespace GeoFacet.Text.Pattern

/-- How the text of a pattern is read from some place on. -/
structure Mode where
  /-- blanks and comments between the parts are skipped -/
  spaced : Bool
  /-- the pattern matches characters and not bytes -/
  unicode : Bool
  deriving DecidableEq, Repr

namespace Mode

/-- Drops white space, and comments up to the end of their line. -/
def dropBlanks (inComment : Bool) : List Char → List Char
  | [] => []
  | c :: rest =>
    if inComment then dropBlanks (c ≠ '\n') rest
    else if isSpace c then dropBlanks false rest
    else if c = '#' then dropBlanks true rest
    else c :: rest

/-- Drops what may stand between the parts. -/
def skip (m : Mode) (cs : List Char) : List Char := if m.spaced then dropBlanks false cs else cs

theorem length_dropBlanks_le (inComment : Bool) (cs : List Char) :
    (dropBlanks inComment cs).length ≤ cs.length := by
  induction cs generalizing inComment with
  | nil => simp [dropBlanks]
  | cons c rest ih =>
    have comment := ih (c ≠ '\n')
    have blank := ih false
    have opening := ih true
    simp only [dropBlanks, List.length_cons]
    split
    · omega
    · split
      · omega
      · split <;> simp_all
        omega

theorem length_skip_le (m : Mode) (cs : List Char) : (m.skip cs).length ≤ cs.length := by
  unfold skip
  split
  · exact length_dropBlanks_le false cs
  · exact Nat.le_refl _

theorem length_of_skip_eq_cons (m : Mode) {c : Char} {cs rest : List Char}
    (h : m.skip cs = c :: rest) : rest.length < cs.length := by
  have := m.length_skip_le cs
  rw [h, List.length_cons] at this
  exact this

end Mode

/-- A part that is not built from others. -/
inductive Primitive where
  /-- a character, and whether it was written as a byte -/
  | literal (c : Char) (asByte : Bool)
  /-- a position in the text -/
  | assertion
  /-- digits, white space or word characters, or all others for a capital -/
  | shorthand (letter : Char)
  /-- the characters with a property -/
  | property
  deriving DecidableEq, Repr

namespace Primitive

/-- Whether the part only matches whole characters. -/
def isSound (m : Mode) : Primitive → Bool
  | literal c asByte => m.unicode || !asByte || c.toNat < 128
  | assertion => true
  | shorthand letter => m.unicode || letter.isLower
  | property => m.unicode

/-- An estimate of the number of states that match the part. -/
def size : Primitive → Nat
  | literal c _ => c.utf8Size
  | assertion => 0
  | shorthand letter => if letter.toLower = 'w' then 1500 else if letter.toLower = 'd' then 150 else 30
  | property => 1500

end Primitive

/-- The character of a number that is one. -/
def charOf? (n : Nat) : Option Char :=
  if n < 0xD800 ∨ (0xE000 ≤ n ∧ n < 0x110000) then some (Char.ofNat n) else none

/-- The text up to the closing brace, and the rest; what was read so far stands in reverse. -/
def readBraced (m : Mode) (acc cs : List Char) : Option (List Char × List Char) :=
  match h : m.skip cs with
  | [] => none
  | c :: rest =>
    have := m.length_of_skip_eq_cons h
    if c = '\x7d' then some (acc.reverse, rest) else readBraced m (c :: acc) rest
termination_by cs.length

/-- The value of hexadecimal digits. -/
def hexValue? (digits : List Char) : Option Nat :=
  digits.foldlM (fun n c => (hexDigit? c).map (16 * n + ·)) 0

/-- A fixed number of hexadecimal digits. -/
def readHex (m : Mode) : Nat → Nat → List Char → Option (Nat × List Char)
  | 0, value, cs => some (value, cs)
  | n + 1, value, c :: rest => do readHex m n (16 * value + (← hexDigit? c)) (m.skip rest)
  | _ + 1, _, [] => none

/-- A character by its number: some digits, or any number of them between braces. -/
def readHexLiteral (m : Mode) (letter : Char) (cs : List Char) :
    Option (Primitive × List Char) :=
  match m.skip cs with
  | '\x7b' :: rest => do
    let (digits, rest) ← readBraced m [] rest
    if digits.isEmpty then none else some (.literal (← charOf? (← hexValue? digits)) false, rest)
  | cs => do
    let digits := if letter = 'x' then 2 else if letter = 'u' then 4 else 8
    let (value, rest) ← readHex m digits 0 cs
    some (.literal (← charOf? value) (letter = 'x'), rest)

/-- The name of a property: one letter, or a text between braces. -/
def readProperty (m : Mode) (cs : List Char) : Option (Primitive × List Char) :=
  match m.skip cs with
  | '\x7b' :: rest => do
    let (text, rest) ← readBraced m [] rest
    if Property.isSound text then some (.property, rest) else none
  | c :: rest => if c ≠ '\\' && Property.isKnown [c] then some (.property, rest) else none
  | [] => none

/-- The names of word borders. -/
def borderNames : List String := ["start", "end", "start-half", "end-half"]

/-- A word border, which may be named between braces. Braces with a number repeat the border. -/
def readWordBorder (m : Mode) (cs : List Char) : Option (Primitive × List Char) :=
  match cs with
  | '\x7b' :: inner =>
    match m.skip inner with
    | [] => none
    | c :: _ =>
      if c.isAlpha || c = '-' then do
        let (name, rest) ← readBraced m [] inner
        if borderNames.contains (String.ofList name) then some (.assertion, rest) else none
      else some (.assertion, cs)
  | _ => some (.assertion, cs)

/-- The character that a letter stands for. -/
def controlOf? : Char → Option Char
  | 'a' => some '\x07'
  | 'f' => some '\x0c'
  | 't' => some '\t'
  | 'n' => some '\n'
  | 'r' => some '\r'
  | 'v' => some '\x0b'
  | _ => none

/-- The part that stands behind a backslash. -/
def readEscape (m : Mode) : List Char → Option (Primitive × List Char)
  | [] => none
  | c :: rest =>
    if c.isDigit then none
    else if c = 'x' ∨ c = 'u' ∨ c = 'U' then readHexLiteral m c rest
    else if c = 'p' ∨ c = 'P' then readProperty m rest
    else if "dswDSW".toList.contains c then some (.shorthand c, rest)
    else if c = 'b' then readWordBorder m rest
    else if "ABz<>".toList.contains c then some (.assertion, rest)
    else match controlOf? c with
      | some control => some (.literal control false, rest)
      | none => if c.toNat < 128 && !c.isAlpha then some (.literal c false, rest) else none

end GeoFacet.Text.Pattern
