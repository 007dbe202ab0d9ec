import GeoFacet.Collection.Basic
import GeoFacet.Json.Selection

/-!
# Configurations

A configuration names the backend, the paging limit and the collections that requests may use. It is
usable if the limit is positive, the names of its collections are distinct and each collection is.
-/

namespace GeoFacet

/-- What requests are compiled for. -/
inductive BackendKind where
  /-- a document search with a query language of its own -/
  | search
  /-- a relational database -/
  | sql
  deriving DecidableEq, Repr, Inhabited

namespace BackendKind

def name : BackendKind → String
  | search => "search"
  | sql => "sql"

instance : Vocabulary BackendKind where
  all := [search, sql]
  name := name

end BackendKind

/-- Why a configuration cannot be used. -/
inductive ConfigFault where
  | unreadable (path reason : String)
  | malformed
  | noPageSize
  | duplicate (collection : String)
  | collection (flaw : Collection.Flaw)
  deriving DecidableEq, Repr

namespace ConfigFault

def message : ConfigFault → String
  | unreadable path reason => s!"Failed to read config file {path}: {reason}"
  | malformed => "Malformed config"
  | noPageSize => "Invalid config: max_page_size must be positive"
  | duplicate c => s!"Invalid config: duplicate collection '{c}'"
  | collection flaw => s!"Invalid config: {flaw.message}"

end ConfigFault

/-- A configuration. -/
structure Config where
  backend : BackendKind
  /-- the greatest offset plus size of a page -/
  maxPageSize : Nat
  collections : List Collection
  deriving DecidableEq, Repr, Inhabited

namespace Config

/-- The greatest offset plus size of a page where nothing else is said. -/
def defaultMaxPageSize : Nat := 10000

def keys : List String := ["backend", "max_page_size", "collections"]

def ofJson? (v : Json) : Option Config := do
  let fs ← v.fields? keys
  some {
    backend := ← fs.defaulted "backend" .search (Json.word? false)
    maxPageSize := ← fs.defaulted "max_page_size" defaultMaxPageSize Json.asNat?
    collections := ← fs.defaulted "collections" [] (Json.listOf? Collection.ofJson?) }

def toJson (c : Config) : Json :=
  .ofMembers [
    ("backend", .ofWord c.backend),
    ("max_page_size", .ofNat c.maxPageSize),
    ("collections", .list (c.collections.map Collection.toJson))]

/-- The first fault of the collections after those of the given names. -/
def collectionsFault? (seen : List String) : List Collection → Option ConfigFault
  | [] => none
  | c :: rest =>
    if seen.contains c.name then some (.duplicate c.name)
    else match c.flaw? with
      | some flaw => some (.collection flaw)
      | none => collectionsFault? (c.name :: seen) rest

/-- The first fault of a configuration. -/
def fault? (c : Config) : Option ConfigFault :=
  if c.maxPageSize = 0 then some .noPageSize else collectionsFault? [] c.collections

/-- The usable configuration of a document. -/
def ofDocument (v : Json) : Except ConfigFault Config :=
  match ofJson? v with
  | none => .error .malformed
  | some c =>
    match c.fault? with
    | some fault => .error fault
    | none => .ok c

/-- The usable configuration of a document text. -/
def ofText (text : String) : Except ConfigFault Config :=
  match Json.readFor? keys text with
  | some v => ofDocument v
  | none => .error .malformed

/-- The collection of a name. -/
def collection (c : Config) (name : String) : Outcome Collection :=
  orRefuse (.unknownCollection name) (c.collections.find? (·.name = name))

end Config

end GeoFacet
