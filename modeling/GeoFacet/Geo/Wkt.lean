import GeoFacet.Geo.Geometry

/-!
# Well-known text

A geometry is written as an upper-case keyword and its positions in brackets, `EMPTY` when it has
none. The reader takes keywords in any case, drops the extra numbers of a position that a dimension
tag announces, and ignores all that follows the first complete geometry.
-/

namespace GeoFacet.Wkt

/-! ## Writing -/

def position (p : Position) : String := plainText p.x ++ " " ++ plainText p.y

def path (path : Path) : String := ",".intercalate (path.map position)

/-- The rings that are written: an empty outer ring is left out. -/
def rings (p : Polygon) : List Path :=
  if p.exterior.isEmpty then p.interiors else p.exterior :: p.interiors

def ringTexts (p : Polygon) : String := "),(".intercalate ((rings p).map path)

/-- A keyword with the parts between an opening and a closing text, or `EMPTY`. -/
def tagged (keyword opening closing separator : String) (parts : List String) : String :=
  if parts.isEmpty then keyword ++ " EMPTY"
  else keyword ++ opening ++ separator.intercalate parts ++ closing

mutual

/-- The well-known text of a geometry. -/
def write : Geometry → String
  | .point p => "POINT(" ++ position p ++ ")"
  | .lineString ps => tagged "LINESTRING" "(" ")" "," (ps.map position)
  | .polygon p => tagged "POLYGON" "((" "))" "),(" ((rings p).map path)
  | .multiPoint ps => tagged "MULTIPOINT" "((" "))" "),(" (ps.map position)
  | .multiLineString ls => tagged "MULTILINESTRING" "((" "))" "),(" (ls.map path)
  | .multiPolygon ps => tagged "MULTIPOLYGON" "(((" ")))" ")),((" (ps.map ringTexts)
  | .collection members => tagged "GEOMETRYCOLLECTION" "(" ")" "," (writeMembers members)

def writeMembers : List Geometry → List String
  | [] => []
  | g :: rest => write g :: writeMembers rest

end

/-! ## Tokens -/

/-- A token; a text that starts like a number and is none is `bad`. -/
inductive Token where
  | opening
  | closing
  | comma
  | number (x : Float)
  | word (s : String)
  | bad

/-- The token of a run of characters. -/
def Token.ofRun (cs : List Char) : Token :=
  match cs with
  | [] => .bad
  | c :: _ =>
    if c.isDigit || c = '.' || c = '-' || c = '+' then
      match readFloat? (String.ofList (cs.dropWhile (· = '+'))) with
      | some x => .number x
      | none => .bad
    else .word (String.ofList (cs.map Char.toUpper))

/-- The token of the run read so far, which stands in reverse, in front of the given ones. -/
def flush (run : List Char) (tokens : List Token) : List Token :=
  if run.isEmpty then tokens else .ofRun run.reverse :: tokens

/-- The tokens of a text. Runs end at blanks, brackets and commas; a null character ends the text. -/
def tokensFrom (run : List Char) : List Char → List Token
  | [] => flush run []
  | c :: rest =>
    if c = '(' then flush run (.opening :: tokensFrom [] rest)
    else if c = ')' then flush run (.closing :: tokensFrom [] rest)
    else if c = ',' then flush run (.comma :: tokensFrom [] rest)
    else if c = ' ' ∨ c = '\t' ∨ c = '\n' ∨ c = '\r' then flush run (tokensFrom [] rest)
    else if c = '\x00' then flush run []
    else tokensFrom (c :: run) rest

/-! ## Reading -/

/-- Reads a value from the front of the tokens. -/
abbrev Reader (α : Type) := List Token → Option (α × List Token)

/-- One value or several with commas between them; there are at most as many as tokens. -/
def separated {α : Type} (item : Reader α) : Nat → Reader (List α)
  | 0, _ => none
  | fuel + 1, ts =>
    match item ts with
    | none => none
    | some (a, .comma :: rest) => (separated item fuel rest).map fun (as, rest) => (a :: as, rest)
    | some (a, rest) => some ([a], rest)

/-- The given number of further coordinates, which are dropped. -/
def skipNumbers : Nat → List Token → Option (List Token)
  | 0, ts => some ts
  | n + 1, .number _ :: rest => skipNumbers n rest
  | _ + 1, _ => none

/-- A position followed by `extra` more coordinates. -/
def readPosition (extra : Nat) : Reader Position
  | .number x :: .number y :: rest => (skipNumbers extra rest).map fun rest => (⟨x, y⟩, rest)
  | _ => none

/-- A value in brackets, or the given one for `EMPTY`. -/
def bracketed {α : Type} (empty : α) (item : Reader α) : Reader α
  | .opening :: rest =>
    match item rest with
    | some (a, .closing :: rest) => some (a, rest)
    | _ => none
  | .word "EMPTY" :: rest => some (empty, rest)
  | _ => none

/-- A bracketed list without items for `EMPTY`. -/
def bracketedList {α : Type} (item : Reader α) : Reader (List α) := fun ts =>
  bracketed [] (separated item ts.length) ts

def readPath (extra : Nat) : Reader Path := bracketedList (readPosition extra)

def readPolygon (extra : Nat) : Reader Polygon := fun ts =>
  (bracketedList (readPath extra) ts).map fun (rings, rest) => (Polygon.ofRings rings, rest)

/-- A position that may stand in brackets of its own. -/
def readMember (extra : Nat) : Reader Position
  | .opening :: rest =>
    match readPosition extra rest with
    | some (p, .closing :: rest) => some (p, rest)
    | _ => none
  | ts => readPosition extra ts

/-- The number of coordinates beyond two that a dimension tag announces. -/
def extraOf? : String → Option Nat
  | "Z" => some 1
  | "M" => some 1
  | "ZM" => some 2
  | _ => none

/-- The kinds of geometry and their keywords. -/
inductive Kind where
  | point | lineString | polygon | multiPoint | multiLineString | multiPolygon | collection

/-- The keywords. A ring is read as a line string, and its keyword takes no glued tag. -/
def Kind.keywords : List (String × Kind) :=
  [("POINT", .point), ("LINESTRING", .lineString), ("POLYGON", .polygon),
    ("MULTIPOINT", .multiPoint), ("MULTILINESTRING", .multiLineString),
    ("MULTIPOLYGON", .multiPolygon), ("GEOMETRYCOLLECTION", .collection)]

/-- The kind a keyword names, and the dimension tag glued to it, if any. -/
def Kind.ofWord? (word : String) : Option (Kind × Option Nat) :=
  if word = "LINEARRING" then some (.lineString, none)
  else Kind.keywords.findSome? fun (keyword, kind) =>
    if word = keyword then some (kind, none)
    else if word = keyword ++ "Z" ∨ word = keyword ++ "M" then some (kind, some 1)
    else if word = keyword ++ "ZM" then some (kind, some 2)
    else none

/-- The dimension tag after a keyword. -/
def readExtra : Reader Nat
  | .word w :: rest =>
    match w with
    | "EMPTY" => some (0, .word w :: rest)
    | w => (extraOf? w).map fun n => (n, rest)
  | [] => none
  | ts => some (0, ts)

mutual

/-- A geometry from its keyword on. -/
def readGeometry : Nat → Reader Geometry
  | 0, _ => none
  | fuel + 1, ts =>
    match ts with
    | .word w :: rest =>
      match Kind.ofWord? w with
      | none => none
      | some (kind, glued) =>
        match glued.elim (readExtra rest) (fun n => some (n, rest)) with
        | none => none
        | some (extra, rest) =>
          match kind with
          | .point =>
            (bracketed none (fun ts => (readPosition extra ts).map fun (p, r) => (some p, r)) rest).map
              fun (p, rest) => (p.elim (.multiPoint []) .point, rest)
          | .lineString => (readPath extra rest).map fun (ps, rest) => (.lineString ps, rest)
          | .polygon => (readPolygon extra rest).map fun (p, rest) => (.polygon p, rest)
          | .multiPoint =>
            (bracketedList (readMember extra) rest).map fun (ps, rest) => (.multiPoint ps, rest)
          | .multiLineString =>
            (bracketedList (readPath extra) rest).map fun (ls, rest) => (.multiLineString ls, rest)
          | .multiPolygon =>
            (bracketedList (readPolygon extra) rest).map fun (ps, rest) => (.multiPolygon ps, rest)
          | .collection =>
            (bracketed [] (readMembers fuel) rest).map fun (gs, rest) => (.collection gs, rest)
    | _ => none

/-- The members of a collection, with commas between them. -/
def readMembers : Nat → Reader (List Geometry)
  | 0, _ => none
  | fuel + 1, ts =>
    match readGeometry fuel ts with
    | none => none
    | some (g, .comma :: rest) => (readMembers fuel rest).map fun (gs, rest) => (g :: gs, rest)
    | some (g, rest) => some ([g], rest)

end

/-- The geometry a text begins with. Every level of the reader passes a token or opens a list, so
twice the number of tokens bounds the steps. -/
def read? (text : String) : Option Geometry :=
  let tokens := tokensFrom [] text.toList
  (readGeometry (2 * tokens.length + 2) tokens).map (·.1)

end GeoFacet.Wkt
