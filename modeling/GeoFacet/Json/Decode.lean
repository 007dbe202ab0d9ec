import GeoFacet.Json.Basic
import GeoFacet.Vocabulary

/-!
# Decoding document values

A structure is read from an object, or from a list of its fields in their order of declaration. Keys
that the structure does not know are ignored; a key that it knows may be given once. A field may
have a default, which stands for a missing key only, or be optional, which allows null too.
-/

namespace GeoFacet

/-- The fields of a structure that were given. -/
abbrev Fields := List (String × Json)

namespace Json

/-- Whether no key is given twice. -/
def distinctKeys : List (String × Json) → Bool
  | [] => true
  | (k, _) :: rest => !rest.any (·.1 == k) && distinctKeys rest

/-- The known fields of an object. -/
def objectFields? (names : List String) : Json → Option Fields
  | .object ms =>
    let known := ms.filter fun m => names.contains m.1
    if distinctKeys known then some known else none
  | _ => none

/-- The known fields of an object, or the items of a list that is no longer than the structure. -/
def fields? (names : List String) : Json → Option Fields
  | .list items => if items.length ≤ names.length then some (names.zip items) else none
  | v => objectFields? names v

def asBool? : Json → Option Bool
  | .bool b => some b
  | _ => none

/-- A list whose items all decode. -/
def listOf? {α : Type} (item : Json → Option α) (v : Json) : Option (List α) :=
  v.asList?.bind (·.mapM item)

/-- Puts an entry into an ascending map, in place of one with the same key. -/
def insertEntry {α : Type} (key : String) (value : α) : List (String × α) → List (String × α)
  | [] => [(key, value)]
  | (k, v) :: rest =>
    if key < k then (key, value) :: (k, v) :: rest
    else if key = k then (key, value) :: rest
    else (k, v) :: insertEntry key value rest

/-- An object with any keys as an ascending map. Of two values for one key the later stays, but both
must decode. -/
def mapOf? {α : Type} (item : Json → Option α) : Json → Option (List (String × α))
  | .object ms => do
    let entries ← ms.mapM fun (k, v) => (item v).map (k, ·)
    some (entries.foldl (fun acc e => insertEntry e.1 e.2 acc) [])
  | _ => none

/-- A word of a vocabulary: its name, or an object that gives null to its name. An empty object
counts as that null if `emptyIsNull`. -/
def word? {α : Type} [Vocabulary α] (emptyIsNull : Bool) : Json → Option α
  | .text s => Vocabulary.ofName? s
  | .object [(name, .null)] => Vocabulary.ofName? name
  | .object [(name, .object [])] => if emptyIsNull then Vocabulary.ofName? name else none
  | _ => none

/-- The document form of a word. -/
def ofWord {α : Type} [Vocabulary α] (a : α) : Json := .text (Vocabulary.name a)

/-- The document form of a map. -/
def ofMap {α : Type} (encode : α → Json) (entries : List (String × α)) : Json :=
  .ofMembers (entries.map fun (k, a) => (k, encode a))

end Json

namespace Fields

/-- A field that must be given. -/
def required {α : Type} (fs : Fields) (name : String) (decode : Json → Option α) : Option α :=
  (fs.lookup name).bind decode

/-- A field with a default. -/
def defaulted {α : Type} (fs : Fields) (name : String) (default : α) (decode : Json → Option α) :
    Option α :=
  match fs.lookup name with
  | none => some default
  | some v => decode v

/-- A field that may be missing or null. -/
def optional {α : Type} (fs : Fields) (name : String) (decode : Json → Option α) :
    Option (Option α) :=
  match fs.lookup name with
  | none | some .null => some none
  | some v => (decode v).map some

end Fields

end GeoFacet
