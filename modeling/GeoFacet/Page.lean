import GeoFacet.Fault
import GeoFacet.Json.Decode
import GeoFacet.Text.Blank

/-!
# Pages

A page is a number of hits from an offset on, or the hits after or before a cursor in a sort order.
-/

namespace GeoFacet

/-- Which way a cursor leads. -/
inductive CursorDirection where
  | after
  | before
  deriving DecidableEq, Repr

namespace CursorDirection

def name : CursorDirection → String
  | after => "after"
  | before => "before"

end CursorDirection

/-- The part of the hits that is wanted. -/
structure Page where
  size : Nat
  offset : Nat
  sort : Option String
  /-- the sort values of the last hit already seen -/
  after : Option String
  /-- the sort values of the first hit already seen -/
  before : Option String
  deriving DecidableEq, Repr, Inhabited

namespace Page

def defaultSize : Nat := 10

/-- The first page. -/
def first : Page := ⟨defaultSize, 0, none, none, none⟩

/-- The sort specification, unless it is blank. -/
def sortSpec? (p : Page) : Option String := p.sort.filter fun s => !Text.isBlank s

/-- The cursor of the page, if it has one. A cursor needs a sort and excludes an offset. -/
def cursor (p : Page) : Outcome (Option (CursorDirection × String)) := do
  let cursor ← match p.after, p.before with
    | some _, some _ => refuse .twoCursors
    | some value, none => .ok (.after, value)
    | none, some value => .ok (.before, value)
    | none, none => return none
  if p.sortSpec?.isNone then refuse .cursorWithoutSort
  else if 0 < p.offset then refuse .cursorWithOffset
  else return some cursor

/-- Requires a size within the limit, also together with the offset. -/
def check (limit : Nat) (p : Page) : Outcome Unit :=
  if p.size = 0 then refuse .sizeNotPositive
  else if limit < p.size then refuse (.sizeTooLarge limit)
  else if limit < min (p.offset + p.size) (UInt64.size - 1) then refuse (.pageTooFar limit)
  else .ok ()

/-! ## Documents -/

def keys : List String := ["size", "from", "sort", "after", "before"]

def ofJson? (v : Json) : Option Page := do
  let fs ← v.fields? keys
  some {
    size := ← fs.defaulted "size" defaultSize Json.asNat?
    offset := ← fs.defaulted "from" 0 Json.asNat?
    sort := ← fs.optional "sort" Json.asText?
    after := ← fs.optional "after" Json.asText?
    before := ← fs.optional "before" Json.asText? }

def toJson (p : Page) : Json :=
  .ofMembers [
    ("size", .ofNat p.size),
    ("from", .ofNat p.offset),
    ("sort", .ofOption Json.text p.sort),
    ("after", .ofOption Json.text p.after),
    ("before", .ofOption Json.text p.before)]

end Page

end GeoFacet
