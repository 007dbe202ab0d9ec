import GeoFacet.Json.Basic

/-!
# Document text of a value

Compact text: no space between tokens, members in the order they stand in, control characters
escaped, all other characters as they are.
-/

namespace GeoFacet.Json

/-- The two hexadecimal digits of a control character. -/
def controlDigits (c : Char) : List Char :=
  [Nat.digitChar (c.toNat / 16), Nat.digitChar (c.toNat % 16)]

/-- A character inside a quoted text. -/
def escaped (c : Char) : List Char :=
  match c with
  | '"' => ['\\', '"']
  | '\\' => ['\\', '\\']
  | '\n' => ['\\', 'n']
  | '\r' => ['\\', 'r']
  | '\t' => ['\\', 't']
  | '\x08' => ['\\', 'b']
  | '\x0c' => ['\\', 'f']
  | c => if c.toNat < 32 then ['\\', 'u', '0', '0'] ++ controlDigits c else [c]

/-- A quoted text. -/
def quotedText (s : String) : String :=
  String.ofList ('"' :: s.toList.flatMap escaped ++ ['"'])

mutual

/-- The document text of a value. -/
def print : Json → String
  | .null => "null"
  | .bool b => if b then "true" else "false"
  | .int n => toString n
  | .float x => documentText x
  | .text s => quotedText s
  | .list items => "[" ++ printItems true items ++ "]"
  | .object members => "\x7b" ++ printMembers true members ++ "\x7d"

def printItems (first : Bool) : List Json → String
  | [] => ""
  | v :: rest => (if first then "" else ",") ++ print v ++ printItems false rest

def printMembers (first : Bool) : List (String × Json) → String
  | [] => ""
  | (k, v) :: rest =>
    (if first then "" else ",") ++ quotedText k ++ ":" ++ print v ++ printMembers false rest

end

end GeoFacet.Json
