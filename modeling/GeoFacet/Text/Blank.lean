/-!
# White space and separated text

White space is the Unicode property `White_Space`. Texts are split at a separator without dropping
empty pieces, and trimmed at both ends.
-/

namespace GeoFacet.Text

/-- The characters with the Unicode property `White_Space`. -/
def isSpace (c : Char) : Bool :=
  let n := c.toNat
  (9 ≤ n && n ≤ 13) || n = 0x20 || n = 0x85 || n = 0xA0 || n = 0x1680 ||
    (0x2000 ≤ n && n ≤ 0x200A) || n = 0x2028 || n = 0x2029 || n = 0x202F || n = 0x205F || n = 0x3000

/-- Drops white space at both ends. -/
def trimList (cs : List Char) : List Char :=
  ((cs.dropWhile isSpace).reverse.dropWhile isSpace).reverse

def trim (s : String) : String := String.ofList (trimList s.toList)

/-- Whether nothing but white space is there. -/
def isBlank (s : String) : Bool := s.toList.all isSpace

/-- The pieces between separators: one more than there are separators. -/
def splitList (sep : Char) : List Char → List (List Char)
  | [] => [[]]
  | c :: rest =>
    if c = sep then [] :: splitList sep rest
    else match splitList sep rest with
      | [] => [[c]]
      | piece :: pieces => (c :: piece) :: pieces

def split (sep : Char) (s : String) : List String := (splitList sep s.toList).map String.ofList

/-- The trimmed pieces between commas, the empty ones left out. -/
def items (s : String) : List String := ((split ',' s).map trim).filter (· ≠ "")

/-- The part before the first separator and the part after it. -/
def cut? (sep : Char) (s : String) : Option (String × String) :=
  let cs := s.toList
  match cs.dropWhile (· ≠ sep) with
  | [] => none
  | _ :: rest => some (String.ofList (cs.takeWhile (· ≠ sep)), String.ofList rest)

/-- The words between white space. The word read so far stands in reverse. -/
def wordsFrom (word : List Char) : List Char → List (List Char)
  | [] => if word.isEmpty then [] else [word.reverse]
  | c :: rest =>
    if isSpace c then
      if word.isEmpty then wordsFrom [] rest else word.reverse :: wordsFrom [] rest
    else wordsFrom (c :: word) rest

def words (s : String) : List String := (wordsFrom [] s.toList).map String.ofList

/-- The rest after a beginning, if the text begins so. -/
def dropStart? : List Char → List Char → Option (List Char)
  | [], cs => some cs
  | p :: ps, c :: cs => if p = c then dropStart? ps cs else none
  | _ :: _, [] => none

/-- Writes `new` in place of every `old`. -/
def substitute (old new : Char) (s : String) : String :=
  s.map fun c => if c = old then new else c

end GeoFacet.Text
