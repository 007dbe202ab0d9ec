import GeoFacet.Search.Assembly
import GeoFacet.Sql.Assembly
import GeoFacet.Proofs.Json.Members
import GeoFacet.Proofs.Json.Printing
import GeoFacet.Proofs.Outcome
import GeoFacet.Proofs.Text.Apart
import GeoFacet.Proofs.Text.Split
import Mathlib.Data.List.Perm.Subperm

/-!
# One record, shown by either backend

An index keeps a record as a document and sends its sort values beside it. A table has a column for
each member of the record, and the row sent for a page has some columns more: the geometry and the
centroid in GeoJSON, as an object or as text, and one column for each sort value.

**Theorem (`hits_agree`).** For a collection with plain paths, the hit of a document and the hit of
a row of the same record have the same identifier, geometry, centroid, custom values and sort values.
They have the same timestamp but for one case: where the record holds null, the document's hit shows
it and the row's hit shows none. Pages of the same records have the same cursors, also after a scan
the other way.

Both hits are read through lookups alone, so what a row has to do with a record is stated by lookups
(`Sql.Row.Shows`); the row with the columns of the record and those that are added is one that shows
it (`Sql.Row.shows_sent`). A plain path leads to the member of that very name in both. The sort
values of a row end at the first number that no column has, which the row is long enough to reach.
-/

namespace GeoFacet

/-! ## Plain paths -/

/-- The columns that a row has besides those of its record. -/
inductive Sql.AddedColumn : String → Prop
  | geometry : AddedColumn geometryName
  | centroid : AddedColumn centroidName
  | sort (rest : String) : AddedColumn (sortNameStart ++ rest)

/-- A path without points that names no added column. -/
structure PlainPath (path : String) : Prop where
  undotted : '.' ∉ path.toList
  own : ¬Sql.AddedColumn path

/-- A collection whose records are read at plain paths. -/
structure Collection.PlainPaths (c : Collection) : Prop where
  id : PlainPath c.idPath
  timestamp : PlainPath c.timestampPath
  geometry : PlainPath c.geometryPath
  centroid : PlainPath c.centroidPath
  custom : ∀ named ∈ c.customPaths, PlainPath named.2

/-- A plain path leads to the member of that name, also if it is null. -/
theorem Search.lookup?_of_undotted {path : String} (h : '.' ∉ path.toList) (document : Json) :
    lookup? document path = document.get? path := by
  have hpieces : Text.split '.' path = [path] := by
    rw [Text.split, Text.splitList_of_notMem h, List.map_singleton, String.ofList_toList]
  rw [lookup?, hpieces]
  cases hmember : document.get? path with
  | some v => rfl
  | none =>
    show ((document.get? path).bind fun v => some v).filter _ = none
    rw [hmember]
    rfl

/-! ## Rows of a record -/

namespace Sql.Row

/-- A column holds a shape of a record: nothing or null where the record has none, and else the
object, itself or in its text. -/
inductive HoldsShape : Option Json → Option Json → Prop
  | absent : HoldsShape none none
  | absentNull : HoldsShape none (some .null)
  | null : HoldsShape (some .null) none
  | nullNull : HoldsShape (some .null) (some .null)
  | object (members : List (String × Json)) :
    HoldsShape (some (.object members)) (some (.object members))
  | text (members : List (String × Json)) (s : String) :
    (Json.read? s).map Json.settled = some (.object members) →
    HoldsShape (some (.object members)) (some (.text s))

/-- A row shows a record of a collection and its sort values. -/
structure Shows (row : Row) (c : Collection) (record : List (String × Json))
    (sort : List Json) : Prop where
  columns : ∀ column, ¬AddedColumn column → row.lookup column = record.lookup column
  geometry : HoldsShape (record.lookup c.geometryPath) (row.lookup geometryName)
  centroid : HoldsShape (record.lookup c.centroidPath) (row.lookup centroidName)
  sort : ∀ i : Nat, row.lookup (sortName i) = sort[i]?

variable {row : Row} {c : Collection} {record : List (String × Json)} {sort : List Json}

/-- A shape that a column holds is read as the shape of the record. -/
theorem HoldsShape.shape?_eq {shape : Option Json} {column : String}
    (h : HoldsShape shape (row.lookup column)) :
    row.shape? column = shape.bind Shape.normalize? := by
  rw [shape?]
  generalize row.lookup column = cell at h
  cases h with
  | absent => rfl
  | absentNull => rfl
  | null => rfl
  | nullNull => rfl
  | object members => rfl
  | text members s hread =>
    obtain ⟨v, hv, hsettled⟩ := Option.map_eq_some_iff.mp hread
    show (Json.read? s >>= fun v => Shape.normalize? v.settled) = _
    rw [hv, ← hsettled]
    rfl

/-- A row is at least as long as the list of its sort values. -/
theorem Shows.length_le (h : row.Shows c record sort) : sort.length ≤ row.length := by
  have hnames : ((List.range sort.length).map sortName).Nodup := by
    apply List.Nodup.map (fun i j hij => Text.numbered_injective sortNameStart hij)
    exact List.nodup_range
  have hcolumns : (List.range sort.length).map sortName ⊆ row.map Prod.fst := by
    intro name hname
    obtain ⟨i, hi, rfl⟩ := List.mem_map.mp hname
    by_contra hnone
    have hlookup := Json.lookup_eq_none_of_notMem hnone
    rw [h.sort, List.getElem?_eq_none_iff] at hlookup
    exact absurd (List.mem_range.mp hi) (Nat.not_lt.mpr hlookup)
  have hlength := (List.subperm_of_subset hnames hcolumns).length_le
  simpa using hlength

/-- The columns from `i` on hold the sort values from `i` on. -/
theorem Shows.sortValues_eq (h : row.Shows c record sort) (i fuel : Nat)
    (hfuel : sort.length ≤ i + fuel) : row.sortValues i fuel = sort.drop i := by
  induction fuel generalizing i with
  | zero => rw [sortValues, List.drop_eq_nil_of_le (by omega)]
  | succ fuel ih =>
    rw [sortValues, h.sort]
    by_cases hi : i < sort.length
    · rw [List.getElem?_eq_getElem hi, List.drop_eq_getElem_cons hi]
      exact congrArg _ (ih (i + 1) (by omega))
    · rw [List.getElem?_eq_none (by omega), List.drop_eq_nil_of_le (by omega)]

/-! ### The row that is sent for a record -/

/-- The columns with some sort values, numbered from `start` on. -/
def sortColumns (sort : List Json) (start : Nat) : Row :=
  (sort.zipIdx start).map fun p => (sortName p.2, p.1)

/-- A row with the columns of a record and those that are added. -/
def sent (record : List (String × Json)) (geometry centroid : Json) (sort : List Json) : Row :=
  (geometryName, geometry) :: (centroidName, centroid) :: (sortColumns sort 0 ++ record)

theorem added_sortColumns {start : Nat} {m : String × Json} (h : m ∈ sortColumns sort start) :
    AddedColumn m.1 := by
  obtain ⟨p, -, rfl⟩ := List.mem_map.mp h
  exact .sort (toString p.2)

theorem lookup_sortColumns (sort : List Json) {start i : Nat} (h : start ≤ i) :
    (sortColumns sort start).lookup (sortName i) = sort[i - start]? := by
  induction sort generalizing start with
  | nil => rfl
  | cons v sort ih =>
    show ((sortName start, v) :: sortColumns sort (start + 1)).lookup (sortName i) = _
    rw [Json.lookup_cons_ite]
    by_cases hi : i = start
    · rw [if_pos (congrArg sortName hi), hi, Nat.sub_self]
      rfl
    · have hname : sortName i ≠ sortName start := fun heq =>
        hi (Text.numbered_injective sortNameStart heq)
      rw [if_neg hname, ih (by omega),
        show i - start = i - (start + 1) + 1 by omega, List.getElem?_cons_succ]

/-- No two kinds of added columns share a name. -/
theorem sortName_ne (i : Nat) : sortName i ≠ geometryName ∧ sortName i ≠ centroidName := by
  have hstart : (sortName i).toList.take 6 = sortNameStart.toList := by
    rw [sortName, String.toList_append]
    exact List.take_left' rfl
  constructor
  · intro h
    rw [h] at hstart
    exact absurd hstart (by decide)
  · intro h
    rw [h] at hstart
    exact absurd hstart (by decide)

/-- The row that is sent for a record shows it. -/
theorem shows_sent (hrecord : ∀ m ∈ record, ¬AddedColumn m.1) {geometry centroid : Json}
    (hgeometry : HoldsShape (record.lookup c.geometryPath) (some geometry))
    (hcentroid : HoldsShape (record.lookup c.centroidPath) (some centroid)) (sort : List Json) :
    (sent record geometry centroid sort).Shows c record sort where
  columns column hown := by
    -- A column of the collection is none of those that the statement adds.
    have hsorts : (sortColumns sort 0).lookup column = none :=
      Json.lookup_eq_none_of_notMem fun hmem => by
        obtain ⟨m, hm, rfl⟩ := List.mem_map.mp hmem
        exact hown (added_sortColumns hm)
    have hshape : column ≠ geometryName := by
      rintro rfl
      exact hown .geometry
    have hpoint : column ≠ centroidName := by
      rintro rfl
      exact hown .centroid
    rw [sent, Json.lookup_cons_ite, if_neg hshape, Json.lookup_cons_ite, if_neg hpoint,
      List.lookup_append, hsorts, Option.none_or]
  geometry := by
    rw [sent, Json.lookup_cons_ite, if_pos rfl]
    exact hgeometry
  centroid := by
    rw [sent, Json.lookup_cons_ite, if_neg (by decide), Json.lookup_cons_ite, if_pos rfl]
    exact hcentroid
  sort i := by
    have hown : record.lookup (sortName i) = none :=
      Json.lookup_eq_none_of_notMem fun hmem => by
        obtain ⟨m, hm, hname⟩ := List.mem_map.mp hmem
        exact hrecord m hm (hname ▸ .sort (toString i))
    rw [sent, Json.lookup_cons_ite, if_neg (sortName_ne i).1, Json.lookup_cons_ite,
      if_neg (sortName_ne i).2, List.lookup_append, hown, Option.or_none,
      lookup_sortColumns sort (Nat.zero_le i), Nat.sub_zero]

end Sql.Row

/-! ## Hits -/

/-- A document of an index and a row of a table hold one record, which has an identifier, with the
same sort values. -/
structure SameRecord (c : Collection) (raw : Json) (row : Sql.Row)
    (record : List (String × Json)) (sort : List Json) : Prop where
  source : raw.member "_source" = .object record
  values : raw.member "sort" = .list sort
  known : (record.lookup c.idPath).isSome
  shows : row.Shows c record sort

/-- The hit of a row shows what the hit of a document shows, but for a timestamp that is null. -/
structure Hit.Matches (h h' : Hit) : Prop where
  id : h'.id = h.id
  geometry : h'.geometry = h.geometry
  centroid : h'.centroid = h.centroid
  custom : h'.custom = h.custom
  sort : h'.sort = h.sort
  timestamp : h'.timestamp = h.timestamp.filter fun v => !v.isNull

section Hits

variable {c : Collection} {raw : Json} {row : Sql.Row} {record : List (String × Json)}
  {sort : List Json}

/-- At a plain path the document has the member of the record. -/
theorem SameRecord.lookup?_eq (h : SameRecord c raw row record sort) {path : String}
    (hpath : PlainPath path) :
    Search.lookup? (raw.member "_source") path = record.lookup path := by
  rw [Search.lookup?_of_undotted hpath.undotted, h.source]
  rfl

/-- At a plain path the row has the member of the record. -/
theorem SameRecord.lookup_eq (h : SameRecord c raw row record sort) {path : String}
    (hpath : PlainPath path) : row.lookup path = record.lookup path :=
  h.shows.columns path hpath.own

theorem SameRecord.custom_eq (h : SameRecord c raw row record sort)
    (hcustom : ∀ named ∈ c.customPaths, PlainPath named.2) :
    (Sql.hit c row).custom = (Search.hit c raw).custom := by
  apply List.filterMap_congr
  intro named hnamed
  obtain ⟨name, path⟩ := named
  show (row.lookup path).map _ = (Search.lookup? (raw.member "_source") path).map _
  rw [h.lookup_eq (hcustom _ hnamed), h.lookup?_eq (hcustom _ hnamed)]

theorem SameRecord.sort_eq (h : SameRecord c raw row record sort) :
    (Sql.hit c row).sort = (Search.hit c raw).sort := by
  show row.sortValues 0 row.length = (raw.member "sort").asList?.getD []
  rw [h.shows.sortValues_eq 0 row.length (by simpa using h.shows.length_le), h.values,
    List.drop_zero]
  rfl

/-- **One record gives one hit.** -/
theorem SameRecord.matches_hit (h : SameRecord c raw row record sort) (hpaths : c.PlainPaths) :
    (Search.hit c raw).Matches (Sql.hit c row) where
  id := by
    obtain ⟨v, hv⟩ := Option.isSome_iff_exists.mp h.known
    show (row.lookup c.idPath).getD .null =
      (Search.lookup? (raw.member "_source") c.idPath).getD (raw.member "_id")
    rw [h.lookup_eq hpaths.id, h.lookup?_eq hpaths.id, hv]
    rfl
  geometry := by
    show row.shape? _ = (Search.lookup? (raw.member "_source") c.geometryPath).bind _
    rw [h.shows.geometry.shape?_eq, h.lookup?_eq hpaths.geometry]
  centroid := by
    show row.shape? _ = (Search.lookup? (raw.member "_source") c.centroidPath).bind _
    rw [h.shows.centroid.shape?_eq, h.lookup?_eq hpaths.centroid]
  custom := h.custom_eq hpaths.custom
  sort := h.sort_eq
  timestamp := by
    show (row.lookup c.timestampPath).filter _ =
      (Search.lookup? (raw.member "_source") c.timestampPath).filter _
    rw [h.lookup_eq hpaths.timestamp, h.lookup?_eq hpaths.timestamp]

/-- The timestamps of the two hits differ where the record holds null. -/
theorem SameRecord.timestamp_eq_iff (h : SameRecord c raw row record sort)
    (hpaths : c.PlainPaths) :
    (Sql.hit c row).timestamp = (Search.hit c raw).timestamp ↔
      record.lookup c.timestampPath ≠ some .null := by
  have htimestamp : (Search.hit c raw).timestamp = record.lookup c.timestampPath :=
    h.lookup?_eq hpaths.timestamp
  rw [(h.matches_hit hpaths).timestamp, htimestamp]
  cases record.lookup c.timestampPath with
  | none => simp
  | some v => cases v <;> simp [Json.isNull, Option.filter]

end Hits

/-! ## Pages -/

namespace Hits

theorem after_eq (p : Hits) : p.after = (p.hits.map Hit.sort).getLast?.bind Cursor.ofValues? := by
  rw [after, List.getLast?_map, Option.bind_map]
  rfl

theorem before_eq (p : Hits) : p.before = (p.hits.map Hit.sort).head?.bind Cursor.ofValues? := by
  rw [before, List.head?_map, Option.bind_map]
  rfl

end Hits

/-- Hits that match have the same sort values. -/
theorem Hit.sorts_eq {hits hits' : List Hit} (h : List.Forall₂ Hit.Matches hits hits') :
    hits'.map Hit.sort = hits.map Hit.sort := by
  induction h with
  | nil => rfl
  | cons hmatches _ ih => rw [List.map_cons, List.map_cons, hmatches.sort, ih]

theorem Hits.cursors_eq {p p' : Hits} (h : List.Forall₂ Hit.Matches p.hits p'.hits) :
    p'.after = p.after ∧ p'.before = p.before := by
  constructor
  · rw [after_eq, after_eq, Hit.sorts_eq h]
  · rw [before_eq, before_eq, Hit.sorts_eq h]

/-- **Either backend shows the same hits for the same records.** -/
theorem hits_agree {c : Collection} (hpaths : c.PlainPaths) {raws : List Json}
    {sent : List Sql.Row}
    (hsame : List.Forall₂ (fun raw row => ∃ record sort, SameRecord c raw row record sort)
      raws sent) :
    List.Forall₂ Hit.Matches (raws.map (Search.hit c)) (sent.map (Sql.hit c)) ∧
      (∀ raw row record sort, SameRecord c raw row record sort →
        ((Sql.hit c row).timestamp = (Search.hit c raw).timestamp ↔
          record.lookup c.timestampPath ≠ some .null)) ∧
      ∀ (result : Json) (rows : Sql.Rows) (counts : List Sql.Row) (reverse : Bool),
        (result.member "hits").member "hits" = .list raws → rows.ofPurpose .hits = .ok sent →
        rows.ofPurpose .count = .ok counts →
        ∃ page page', Search.assembleHits c reverse result = .ok page ∧
          Sql.assembleHits c reverse rows = .ok page' ∧
          List.Forall₂ Hit.Matches page.hits page'.hits ∧
          page'.after = page.after ∧ page'.before = page.before := by
  have hmatches : List.Forall₂ Hit.Matches (raws.map (Search.hit c)) (sent.map (Sql.hit c)) := by
    rw [List.forall₂_map_left_iff, List.forall₂_map_right_iff]
    apply hsame.imp
    rintro raw row ⟨record, sort, h⟩
    exact h.matches_hit hpaths
  refine ⟨hmatches, fun raw row record sort h => h.timestamp_eq_iff hpaths, ?_⟩
  intro result rows counts reverse hraws hsent hcounts
  let hits := if reverse then (raws.map (Search.hit c)).reverse else raws.map (Search.hit c)
  let hits' := if reverse then (sent.map (Sql.hit c)).reverse else sent.map (Sql.hit c)
  -- A page that was asked for backwards turns both lists alike.
  have hdirected : List.Forall₂ Hit.Matches hits hits' := by
    cases reverse with
    | true => exact List.forall₂_reverse_iff.mpr hmatches
    | false => exact hmatches
  obtain ⟨total, htotal⟩ : ∃ total, rows.total .count = .ok total := by
    rw [Sql.Rows.total, hcounts]
    exact ⟨_, rfl⟩
  refine ⟨⟨Search.totalHits result, hits⟩, ⟨total, hits'⟩, ?_, ?_, hdirected,
    Hits.cursors_eq hdirected⟩
  · rw [Search.assembleHits, hraws]
    rfl
  · rw [Sql.assembleHits, hsent, Outcome.ok_bind, htotal, Outcome.ok_bind]

/-! ### A port that was not seen

The record holds null for the time it was seen, and its place comes back in a text. -/

def ports : Collection :=
  ⟨"ports", "ports", "id", "shape", "place", "seen", "epoch_millis", [("label", "name")],
    [("id", .keyword), ("shape", .geoShape), ("place", .geoPoint), ("seen", .date)]⟩

def quayPlace : List (String × Json) :=
  [("coordinates", .list [.int 2, .int 48]), ("type", .text "Point")]

def quay : List (String × Json) :=
  [("id", .text "q"), ("name", .text "Quay"), ("place", .object quayPlace), ("seen", .null)]

def quayDocument : Json :=
  .object [("_source", .object quay), ("sort", .list [.text "Quay", .text "q"])]

def quayRow : Sql.Row :=
  Sql.Row.sent quay .null (.text (Json.object quayPlace).print) [.text "Quay", .text "q"]

theorem hits_agree_ports : ports.PlainPaths ∧
    SameRecord ports quayDocument quayRow quay [.text "Quay", .text "q"] ∧
    (Search.hit ports quayDocument).Matches (Sql.hit ports quayRow) ∧
    (Sql.hit ports quayRow).timestamp ≠ (Search.hit ports quayDocument).timestamp := by
  have hown (name : String) (h : name.toList.head? ≠ some '_') : ¬Sql.AddedColumn name := by
    intro hadded
    cases hadded with
    | geometry => exact h rfl
    | centroid => exact h rfl
    | sort rest =>
      rw [String.toList_append] at h
      exact h rfl
  have hpaths : ports.PlainPaths := by
    constructor
    case custom =>
      intro named hnamed
      rw [List.mem_singleton.mp hnamed]
      exact ⟨by decide, hown "name" (by decide)⟩
    all_goals exact ⟨by decide, hown _ (by decide)⟩
  have hquay : ∀ m ∈ quay, ¬Sql.AddedColumn m.1 := by
    simp only [quay, List.forall_mem_cons]
    exact ⟨hown _ (by decide), hown _ (by decide), hown _ (by decide), hown _ (by decide), by simp⟩
  have hplace : (Json.read? (Json.object quayPlace).print).map Json.settled =
      some (.object quayPlace) := by
    have hreadable : Json.Readable 127 (.object quayPlace) := by
      apply Json.Readable.object
      simp only [quayPlace, List.forall_mem_cons]
      refine ⟨.list ?_, .text _, by simp⟩
      simp only [List.forall_mem_cons]
      exact ⟨.int ⟨by decide, by decide⟩, .int ⟨by decide, by decide⟩, by simp⟩
    rw [Json.read?_print hreadable]
    rfl
  have hgeometry : Sql.Row.HoldsShape (quay.lookup ports.geometryPath) (some .null) := .absentNull
  have hcentroid : Sql.Row.HoldsShape (quay.lookup ports.centroidPath)
      (some (.text (Json.object quayPlace).print)) := .text quayPlace _ hplace
  have hsame : SameRecord ports quayDocument quayRow quay [.text "Quay", .text "q"] :=
    ⟨rfl, rfl, rfl, Sql.Row.shows_sent hquay hgeometry hcentroid _⟩
  obtain ⟨hmatches, htimestamp, -⟩ := hits_agree hpaths (.cons ⟨_, _, hsame⟩ .nil)
  refine ⟨hpaths, hsame, (List.forall₂_cons.mp hmatches).1, ?_⟩
  rw [ne_eq, htimestamp _ _ _ _ hsame]
  exact not_not_intro rfl

end GeoFacet
