import GeoFacet.Json.Reader

/-!
# Reading a document for some of its members

Who reads a structure from a text knows the keys of its members. `Json.readFor?` passes over the
members of the outermost object that stand under other keys. Their text must have the form of a
value, but nothing in it is decoded: a number too great for a double, a nesting of any depth and
half a pair of escapes do no harm there.
-/

namespace GeoFacet.Json

/-! ## Passing over -/

/-- The rest after the closing quote of a text. -/
def skipText? : List Char → Option (List Char)
  | '"' :: rest => some rest
  | '\\' :: 'u' :: a :: b :: c :: d :: rest =>
    if [a, b, c, d].all fun digit => (hexDigit? digit).isSome then skipText? rest else none
  | '\\' :: c :: rest => if (shortEscape? c).isSome then skipText? rest else none
  | c :: rest => if c.toNat < 32 then none else skipText? rest
  | [] => none

mutual

/-- The rest after a value. -/
def skipValue? : Nat → List Char → Option (List Char)
  | 0, _ => none
  | fuel + 1, cs =>
    match skipBlanks cs with
    | '"' :: rest => skipText? rest
    | '[' :: rest =>
      match skipBlanks rest with
      | ']' :: rest => some rest
      | rest => skipItems? fuel rest
    | '\x7b' :: rest =>
      match skipBlanks rest with
      | '\x7d' :: rest => some rest
      | rest => skipMembers? fuel rest
    | 'n' :: rest => dropWord? "ull".toList rest
    | 't' :: rest => dropWord? "rue".toList rest
    | 'f' :: rest => dropWord? "alse".toList rest
    | rest => (readNumberText? rest).map (·.2)

/-- The rest after items and their closing bracket. -/
def skipItems? : Nat → List Char → Option (List Char)
  | 0, _ => none
  | fuel + 1, cs => do
    match skipBlanks (← skipValue? fuel cs) with
    | ',' :: rest => skipItems? fuel rest
    | ']' :: rest => some rest
    | _ => none

/-- The rest after members and their closing brace. -/
def skipMembers? : Nat → List Char → Option (List Char)
  | 0, _ => none
  | fuel + 1, cs =>
    match skipBlanks cs with
    | '"' :: rest => do
      match skipBlanks (← skipText? rest) with
      | ':' :: rest =>
        match skipBlanks (← skipValue? fuel rest) with
        | ',' :: rest => skipMembers? fuel rest
        | '\x7d' :: rest => some rest
        | _ => none
      | _ => none
    | _ => none

end

/-! ## Choosing members -/

/-- The value of a member under the given key, or nothing where the key is none of the names. -/
def readChosen? (names : List String) (key : String) (cs : List Char) :
    Option (Option Json × List Char) :=
  let steps := 2 * cs.length + 2
  if names.contains key then
    (readValue? steps (maxDepth - 1) cs).map fun (v, rest) => (some v, rest)
  else (skipValue? steps cs).map fun rest => (none, rest)

/-- The members of the given names, up to the closing brace. Those read so far stand in reverse. -/
def readChosenMembers? (names : List String) : Nat → List (String × Json) → List Char →
    Option (List (String × Json) × List Char)
  | 0, _, _ => none
  | fuel + 1, acc, cs =>
    match skipBlanks cs with
    | '"' :: rest => do
      let (key, rest) ← readText? (rest.length + 1) [] rest
      match skipBlanks rest with
      | ':' :: rest =>
        let (value, rest) ← readChosen? names key rest
        let acc := (value.map (key, ·)).toList ++ acc
        match skipBlanks rest with
        | ',' :: rest => readChosenMembers? names fuel acc rest
        | '\x7d' :: rest => some (acc.reverse, rest)
        | _ => none
      | _ => none
    | _ => none

/-- The value a text holds, without the members of an object that have none of the given names. -/
def readFor? (names : List String) (text : String) : Option Json := do
  let (v, rest) ← match skipBlanks text.toList with
    | '\x7b' :: rest =>
      match skipBlanks rest with
      | '\x7d' :: rest => some (.object [], rest)
      | rest => (readChosenMembers? names (rest.length + 1) [] rest).map fun (ms, rest) =>
        (.object ms, rest)
    | cs => readValue? (2 * cs.length + 2) maxDepth cs
  if (skipBlanks rest).isEmpty then some v else none

end GeoFacet.Json
