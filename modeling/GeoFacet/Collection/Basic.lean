import GeoFacet.Fault
import GeoFacet.Json.Decode
import GeoFacet.Text.Blank

/-!
# Collections

A collection is an index or table whose records have an identifier, a geometry, a centroid and a
timestamp at known paths, and fields of declared types.
-/

namespace GeoFacet

/-- A collection of records. -/
structure Collection where
  name : String
  /-- the name of the index or table -/
  index : String
  idPath : String
  geometryPath : String
  centroidPath : String
  timestampPath : String
  timestampFormat : String
  /-- further paths that every hit shows, by name -/
  customPaths : List (String × String)
  /-- the declared types, by path -/
  fields : List (String × FieldType)
  deriving DecidableEq, Repr, Inhabited

namespace Collection

/-- The declared type of a path. -/
def type? (c : Collection) (path : String) : Option FieldType := c.fields.lookup path

/-- The declared type of a path that must be declared. -/
def fieldType (c : Collection) (path : String) : Outcome FieldType :=
  match c.type? path with
  | some t => .ok t
  | none => .error (.unknownField path c.name)

/-- Why a collection cannot be used. -/
inductive Flaw where
  | blankName
  | undeclared (collection role path : String)
  | unsuitable (collection role path expected : String) (type : FieldType)
  deriving DecidableEq, Repr

namespace Flaw

def message : Flaw → String
  | blankName => "collection_name and index_name must not be empty"
  | undeclared c role path => s!"collection '{c}': {role} path '{path}' is not declared in fields"
  | unsuitable c role path expected type =>
    s!"collection '{c}': {role} path '{path}' must be {expected}, not {type.name}"

end Flaw

/-- The flaw of a well-known path: it must be declared with a suitable type. -/
def pathFlaw? (c : Collection) (role path expected : String) (suitable : FieldType → Bool) :
    Option Flaw :=
  match c.type? path with
  | none => some (.undeclared c.name role path)
  | some t => if suitable t then none else some (.unsuitable c.name role path expected t)

/-- The first flaw of a collection. -/
def flaw? (c : Collection) : Option Flaw :=
  if Text.isBlank c.name ∨ Text.isBlank c.index then some .blankName
  else
    c.pathFlaw? "id" c.idPath "a non-geometry field" (fun t => !t.isGeometry) <|>
    c.pathFlaw? "geometry" c.geometryPath "a geometry" FieldType.isGeometry <|>
    c.pathFlaw? "centroid" c.centroidPath "a point" FieldType.isPoint <|>
    c.pathFlaw? "timestamp" c.timestampPath "a date" FieldType.isDate

/-! ## Documents -/

def keys : List String :=
  ["collection_name", "index_name", "id_path", "geometry_path", "centroid_path",
    "timestamp_path", "timestamp_format", "custom_paths", "fields"]

def ofJson? (v : Json) : Option Collection := do
  let fs ← v.objectFields? keys
  some {
    name := ← fs.required "collection_name" Json.asText?
    index := ← fs.required "index_name" Json.asText?
    idPath := ← fs.required "id_path" Json.asText?
    geometryPath := ← fs.required "geometry_path" Json.asText?
    centroidPath := ← fs.required "centroid_path" Json.asText?
    timestampPath := ← fs.required "timestamp_path" Json.asText?
    timestampFormat := ← fs.defaulted "timestamp_format" "epoch_millis" Json.asText?
    customPaths := ← fs.defaulted "custom_paths" [] (Json.mapOf? Json.asText?)
    fields := ← fs.defaulted "fields" [] (Json.mapOf? (Json.word? false)) }

def toJson (c : Collection) : Json :=
  .ofMembers [
    ("collection_name", .text c.name),
    ("index_name", .text c.index),
    ("id_path", .text c.idPath),
    ("geometry_path", .text c.geometryPath),
    ("centroid_path", .text c.centroidPath),
    ("timestamp_path", .text c.timestampPath),
    ("timestamp_format", .text c.timestampFormat),
    ("custom_paths", .ofMap Json.text c.customPaths),
    ("fields", .ofMap Json.ofWord c.fields)]

end Collection

end GeoFacet
