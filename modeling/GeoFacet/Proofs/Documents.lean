import GeoFacet.Collection.Config
import GeoFacet.Request
import GeoFacet.Proofs.Json.Printing
import GeoFacet.Proofs.Json.Reading

/-!
# Requests and configurations as documents

**Theorem (`documents_round_trip`).** Every request is decoded from the document it is encoded as.
Its text is read back too, if the sizes in the request fit 64 bits; those of a request that was read
from a text do. A usable configuration comes back in the same way, with the same collections in the
same order.

Each structure is encoded with all of its fields, so no default is asked for when it is decoded
again. The proof has one lemma for each structure, in which the fields are inverted one by one
(`GeoFacet.Proofs.Json.Decoding`), and one that its document is readable
(`GeoFacet.Proofs.Json.Printing`). The maps of a collection are the one part whose encoding is not
injective: the entries of an object have no order. They come back since the maps of a decoded
collection are ascending.
-/

namespace GeoFacet

open Json

/-! ## Words -/

instance : LawfulVocabulary Operator := ⟨by intro a; cases a <;> rfl⟩
instance : LawfulVocabulary FacetType := ⟨by intro a; cases a <;> rfl⟩
instance : LawfulVocabulary CollectFunction := ⟨by intro a; cases a <;> rfl⟩
instance : LawfulVocabulary ComputationMetric := ⟨by intro a; cases a <;> rfl⟩
instance : LawfulVocabulary Order := ⟨by intro a; cases a <;> rfl⟩
instance : LawfulVocabulary OrderOn := ⟨by intro a; cases a <;> rfl⟩
instance : LawfulVocabulary AggregatedGeometry := ⟨by intro a; cases a <;> rfl⟩
instance : LawfulVocabulary BackendKind := ⟨by intro a; cases a <;> rfl⟩
instance : LawfulVocabulary FieldType := ⟨by intro a; cases a <;> rfl⟩

theorem text_ne_null (s : String) : Json.text s ≠ .null := nofun

theorem ofWord_ne_null {α : Type} [Vocabulary α] (a : α) : ofWord a ≠ .null := nofun

theorem ofNat_ne_null (n : Nat) : ofNat n ≠ .null := nofun

/-! ## Requests -/

theorem Expression.inverts (emptyIsNull : Bool) : Inverts (ofJson? emptyIsNull) toJson := by
  intro e
  rw [toJson, ofJson?]
  refine bind_fields? ["field", "op", "value"] rfl (by decide) fun fs hget => ?_
  have hfield := Fields.required_of inverts_text (hget "field" rfl)
  have hop := Fields.required_of (inverts_word emptyIsNull) (hget "op" rfl)
  have hvalue := Fields.required_of inverts_text (hget "value" rfl)
  rw [hfield, hop, hvalue]
  rfl

theorem Page.inverts : Inverts ofJson? toJson := by
  intro p
  rw [toJson, ofJson?]
  refine bind_fields? keys rfl (by decide) fun fs hget => ?_
  have hsize := Fields.defaulted_of inverts_nat (hget "size" rfl) defaultSize
  have hoffset := Fields.defaulted_of inverts_nat (hget "from" rfl) 0
  have hsort := Fields.optional_of inverts_text text_ne_null (hget "sort" rfl)
  have hafter := Fields.optional_of inverts_text text_ne_null (hget "after" rfl)
  have hbefore := Fields.optional_of inverts_text text_ne_null (hget "before" rfl)
  rw [hsize, hoffset, hsort, hafter, hbefore]
  rfl

theorem FilterRequest.ofFields?_toFields (r : FilterRequest) {fs : Fields}
    (hf : fs.lookup "f" = r.toFields.lookup "f") (hq : fs.lookup "q" = r.toFields.lookup "q")
    (hdate : fs.lookup "date_format" = r.toFields.lookup "date_format") :
    ofFields? fs = some r := by
  have hexpressions := Fields.defaulted_of (Expression.inverts true).list.list hf []
  have hsearches := Fields.defaulted_of inverts_text.list.list hq []
  have hformat := Fields.optional_of inverts_text text_ne_null hdate
  rw [ofFields?, hexpressions, hsearches, hformat]
  rfl

/-- The kind of a request stands beside its fields. -/
theorem SearchRequest.ofJson?_beside (r : SearchRequest) (kind : Json) :
    ofJson? (.ofMembers (("kind", kind) :: r.toFields)) = some r := by
  rw [ofJson?]
  refine bind_objectFields? ["kind", "f", "q", "date_format", "page"] rfl (by decide)
    fun fs hget => ?_
  have hfilter := r.filter.ofFields?_toFields (hget "f" rfl) (hget "q" rfl)
    (hget "date_format" rfl)
  have hpage := Fields.defaulted_of Page.inverts (hget "page" rfl) Page.first
  rw [hfilter, hpage]
  rfl

theorem MetricSpec.inverts (emptyIsNull : Bool) : Inverts (ofJson? emptyIsNull) toJson := by
  intro m
  rw [toJson, ofJson?]
  refine bind_fields? ["collect_field", "collect_fct"] rfl (by decide) fun fs hget => ?_
  have hfield := Fields.optional_of inverts_text text_ne_null (hget "collect_field" rfl)
  have hfunction := Fields.optional_of (inverts_word emptyIsNull) ofWord_ne_null
    (hget "collect_fct" rfl)
  rw [hfield, hfunction]
  rfl

theorem RawGeometrySpec.inverts : Inverts ofJson? toJson := by
  intro g
  rw [toJson, ofJson?]
  refine bind_fields? ["geometry", "sort"] rfl (by decide) fun fs hget => ?_
  have hpath := Fields.required_of inverts_text (hget "geometry" rfl)
  have hsort := Fields.optional_of inverts_text text_ne_null (hget "sort" rfl)
  rw [hpath, hsort]
  rfl

theorem FetchSpec.inverts : Inverts ofJson? toJson := by
  intro f
  rw [toJson, ofJson?]
  refine bind_fields? ["size", "include"] rfl (by decide) fun fs hget => ?_
  have hsize := Fields.required_of inverts_nat (hget "size" rfl)
  have hpaths := Fields.defaulted_of inverts_text.list (hget "include" rfl) []
  rw [hsize, hpaths]
  rfl

theorem FetchSpec.toJson_ne_null (f : FetchSpec) : f.toJson ≠ .null := nofun

theorem FacetSpec.inverts (emptyIsNull : Bool) : Inverts (ofJson? emptyIsNull) toJson := by
  intro s
  rw [toJson, ofJson?]
  refine bind_fields? keys rfl (by decide) fun fs hget => ?_
  have htype := Fields.required_of (inverts_word emptyIsNull) (hget "type" rfl)
  have hfield := Fields.optional_of inverts_text text_ne_null (hget "field" rfl)
  have hinterval := Fields.optional_of inverts_text text_ne_null (hget "interval" rfl)
  have hformat := Fields.optional_of inverts_text text_ne_null (hget "format" rfl)
  have hmetrics := Fields.defaulted_of (MetricSpec.inverts emptyIsNull).list (hget "metrics" rfl) []
  have horder := Fields.optional_of (inverts_word emptyIsNull) ofWord_ne_null (hget "order" rfl)
  have hon := Fields.optional_of (inverts_word emptyIsNull) ofWord_ne_null (hget "on" rfl)
  have hsize := Fields.optional_of inverts_nat ofNat_ne_null (hget "size" rfl)
  have hpattern := Fields.optional_of inverts_text text_ne_null (hget "include" rfl)
  have hgeometries := Fields.defaulted_of (inverts_word emptyIsNull).list
    (hget "aggregated_geometries" rfl) []
  have hraw := Fields.defaulted_of RawGeometrySpec.inverts.list (hget "raw_geometries" rfl) []
  have hfetch := Fields.optional_of FetchSpec.inverts FetchSpec.toJson_ne_null
    (hget "fetch_hits" rfl)
  rw [htype, hfield, hinterval, hformat, hmetrics, horder, hon, hsize, hpattern, hgeometries, hraw,
    hfetch]
  rfl

theorem FacetRequest.ofJson?_beside (r : FacetRequest) (kind : Json) (emptyIsNull : Bool) :
    ofJson? emptyIsNull (.ofMembers (("kind", kind) :: r.toFields)) = some r := by
  rw [ofJson?]
  refine bind_objectFields? ["kind", "f", "q", "date_format", "aggregations", "geo"] rfl (by decide)
    fun fs hget => ?_
  have hfilter := r.filter.ofFields?_toFields (hget "f" rfl) (hget "q" rfl)
    (hget "date_format" rfl)
  have hfacets := Fields.required_of (FacetSpec.inverts emptyIsNull).list (hget "aggregations" rfl)
  have hgeo := Fields.defaulted_of inverts_bool (hget "geo" rfl) false
  rw [hfilter, hfacets, hgeo]
  rfl

theorem ComputationRequest.ofJson?_beside (r : ComputationRequest) (kind : Json)
    (emptyIsNull : Bool) :
    ofJson? emptyIsNull (.ofMembers (("kind", kind) :: r.toFields)) = some r := by
  rw [ofJson?]
  refine bind_objectFields? ["kind", "f", "q", "date_format", "field", "metric"] rfl (by decide)
    fun fs hget => ?_
  have hfilter := r.filter.ofFields?_toFields (hget "f" rfl) (hget "q" rfl)
    (hget "date_format" rfl)
  have hfield := Fields.required_of inverts_text (hget "field" rfl)
  have hmetric := Fields.required_of (inverts_word emptyIsNull) (hget "metric" rfl)
  rw [hfilter, hfield, hmetric]
  rfl

theorem Request.inverts : Inverts ofJson? toJson := by
  have hkind (kind : Json) {fields : Fields} (names : List String)
      (hnames : fields.map Prod.fst = names) (h : ("kind" :: names).Nodup) :
      objectFields? ["kind"] (.ofMembers (("kind", kind) :: fields)) = some [("kind", kind)] :=
    objectFields?_single (by rwa [List.map_cons, hnames])
  intro r
  cases r with
  | search r =>
    rw [toJson, ofJson?, hkind _ SearchRequest.keys rfl (by decide)]
    simp only [Option.bind_eq_bind, Option.bind_some, r.ofJson?_beside, Option.map_some]
  | facets r =>
    rw [toJson, ofJson?, hkind _ FacetRequest.keys rfl (by decide)]
    simp only [Option.bind_eq_bind, Option.bind_some, r.ofJson?_beside, Option.map_some]
  | compute r =>
    rw [toJson, ofJson?, hkind _ ComputationRequest.keys rfl (by decide)]
    simp only [Option.bind_eq_bind, Option.bind_some, r.ofJson?_beside, Option.map_some]

/-! ## Configurations -/

/-- The maps of a collection are ascending, as those of every decoded collection are. -/
structure Collection.Ordered (c : Collection) : Prop where
  customPaths : Ascending c.customPaths
  fields : Ascending c.fields

theorem Collection.ofJson?_toJson {c : Collection} (h : c.Ordered) : ofJson? c.toJson = some c := by
  rw [toJson, ofJson?]
  refine bind_objectFields? keys rfl (by decide) fun fs hget => ?_
  have hname := Fields.required_of inverts_text (hget "collection_name" rfl)
  have hindex := Fields.required_of inverts_text (hget "index_name" rfl)
  have hid := Fields.required_of inverts_text (hget "id_path" rfl)
  have hgeometry := Fields.required_of inverts_text (hget "geometry_path" rfl)
  have hcentroid := Fields.required_of inverts_text (hget "centroid_path" rfl)
  have htimestamp := Fields.required_of inverts_text (hget "timestamp_path" rfl)
  have hformat := Fields.defaulted_of inverts_text (hget "timestamp_format" rfl) "epoch_millis"
  have hcustom := (Fields.defaulted_eq (hget "custom_paths" rfl) []).trans
    (mapOf?_ofMap inverts_text h.customPaths)
  have hfields := (Fields.defaulted_eq (hget "fields" rfl) []).trans
    (mapOf?_ofMap (inverts_word false) h.fields)
  rw [hname, hindex, hid, hgeometry, hcentroid, htimestamp, hformat, hcustom, hfields]
  rfl

theorem Collection.ordered_of_ofJson? {v : Json} {c : Collection} (h : ofJson? v = some c) :
    c.Ordered := by
  obtain ⟨fs, -, h⟩ := Option.bind_eq_some_iff.mp h
  iterate 7 obtain ⟨_, -, h⟩ := Option.bind_eq_some_iff.mp h
  obtain ⟨custom, hcustom, h⟩ := Option.bind_eq_some_iff.mp h
  obtain ⟨fields, hfields, h⟩ := Option.bind_eq_some_iff.mp h
  cases h
  have hall : fs.All fun _ => True := fun _ _ _ => trivial
  exact ⟨hall.defaulted (fun _ _ _ => ascending_of_mapOf?) .nil hcustom,
    hall.defaulted (fun _ _ _ => ascending_of_mapOf?) .nil hfields⟩

namespace Config

theorem ofJson?_toJson {c : Config} (h : ∀ col ∈ c.collections, col.Ordered) :
    ofJson? c.toJson = some c := by
  rw [toJson, ofJson?]
  refine bind_fields? keys rfl (by decide) fun fs hget => ?_
  have hbackend := Fields.defaulted_of (inverts_word false) (hget "backend" rfl) BackendKind.search
  have hsize := Fields.defaulted_of inverts_nat (hget "max_page_size" rfl) defaultMaxPageSize
  have hcollections := (Fields.defaulted_eq (hget "collections" rfl) []).trans
    (listOf?_list fun col hcol => Collection.ofJson?_toJson (h col hcol))
  rw [hbackend, hsize, hcollections]
  rfl

theorem ordered_of_ofJson? {v : Json} {c : Config} (h : ofJson? v = some c) :
    ∀ col ∈ c.collections, col.Ordered := by
  obtain ⟨fs, -, h⟩ := Option.bind_eq_some_iff.mp h
  iterate 2 obtain ⟨_, -, h⟩ := Option.bind_eq_some_iff.mp h
  obtain ⟨collections, hcollections, h⟩ := Option.bind_eq_some_iff.mp h
  cases h
  have hall : fs.All fun _ => True := fun _ _ _ => trivial
  refine hall.defaulted (P := fun cs : List Collection => ∀ col ∈ cs, col.Ordered)
    (fun u cs _ hcs => ?_) (by simp) hcollections
  cases u with
  | list items =>
    exact forall_of_listOf? (R := fun _ => True) (fun _ _ => trivial)
      (fun _ _ _ => Collection.ordered_of_ofJson?) hcs
  | _ => cases hcs

theorem ofDocument_eq_ok {v : Json} {c : Config} :
    ofDocument v = .ok c ↔ ofJson? v = some c ∧ c.fault? = none := by
  rw [ofDocument]
  constructor
  · intro h
    split at h
    · cases h
    · rename_i c' hc
      split at h
      · cases h
      · rename_i hfault
        cases h
        exact ⟨hc, hfault⟩
  · rintro ⟨hc, hfault⟩
    simp only [hc, hfault]

/-- A usable configuration is decoded from its own document. -/
theorem ofDocument_toJson {v : Json} {c : Config} (h : ofDocument v = .ok c) :
    ofDocument c.toJson = .ok c := by
  obtain ⟨hc, hfault⟩ := ofDocument_eq_ok.mp h
  exact ofDocument_eq_ok.mpr ⟨ofJson?_toJson (ordered_of_ofJson? hc), hfault⟩

end Config

/-! ## Sizes -/

structure Page.Sized (p : Page) : Prop where
  size : p.size < UInt64.size
  offset : p.offset < UInt64.size

structure FacetSpec.Sized (s : FacetSpec) : Prop where
  size : ∀ n ∈ s.size, n < UInt64.size
  fetch : ∀ f ∈ s.fetch, f.size < UInt64.size

/-- The sizes of a request fit 64 bits. -/
def Request.Sized : Request → Prop
  | search r => r.page.Sized
  | facets r => ∀ s ∈ r.facets, s.Sized
  | compute _ => True

theorem Page.sized_of_ofJson? {v : Json} {p : Page} (hv : v.Fits) (h : ofJson? v = some p) :
    p.Sized := by
  obtain ⟨fs, hfs, h⟩ := Option.bind_eq_some_iff.mp h
  obtain ⟨size, hsize, h⟩ := Option.bind_eq_some_iff.mp h
  obtain ⟨offset, hoffset, h⟩ := Option.bind_eq_some_iff.mp h
  iterate 3 obtain ⟨_, -, h⟩ := Option.bind_eq_some_iff.mp h
  cases h
  have hall := hv.fields? hfs
  exact ⟨hall.defaulted (P := (· < UInt64.size)) (fun _ _ => Fits.asNat?_lt) (by decide) hsize,
    hall.defaulted (P := (· < UInt64.size)) (fun _ _ => Fits.asNat?_lt) (by decide) hoffset⟩

theorem FetchSpec.size_of_ofJson? {v : Json} {f : FetchSpec} (hv : v.Fits)
    (h : ofJson? v = some f) : f.size < UInt64.size := by
  obtain ⟨fs, hfs, h⟩ := Option.bind_eq_some_iff.mp h
  obtain ⟨size, hsize, h⟩ := Option.bind_eq_some_iff.mp h
  obtain ⟨_, -, h⟩ := Option.bind_eq_some_iff.mp h
  cases h
  exact (hv.fields? hfs).required (P := (· < UInt64.size)) (fun _ _ => Fits.asNat?_lt) hsize

theorem FacetSpec.sized_of_ofJson? {emptyIsNull : Bool} {v : Json} {s : FacetSpec} (hv : v.Fits)
    (h : ofJson? emptyIsNull v = some s) : s.Sized := by
  obtain ⟨fs, hfs, h⟩ := Option.bind_eq_some_iff.mp h
  iterate 7 obtain ⟨_, -, h⟩ := Option.bind_eq_some_iff.mp h
  obtain ⟨size, hsize, h⟩ := Option.bind_eq_some_iff.mp h
  iterate 3 obtain ⟨_, -, h⟩ := Option.bind_eq_some_iff.mp h
  obtain ⟨fetch, hfetch, h⟩ := Option.bind_eq_some_iff.mp h
  cases h
  have hall := hv.fields? hfs
  exact ⟨hall.optional (P := (· < UInt64.size)) (fun _ _ => Fits.asNat?_lt) hsize,
    hall.optional (fun _ _ => FetchSpec.size_of_ofJson?) hfetch⟩

theorem SearchRequest.sized_of_ofJson? {v : Json} {r : SearchRequest} (hv : v.Fits)
    (h : ofJson? v = some r) : r.page.Sized := by
  obtain ⟨fs, hfs, h⟩ := Option.bind_eq_some_iff.mp h
  obtain ⟨_, -, h⟩ := Option.bind_eq_some_iff.mp h
  obtain ⟨page, hpage, h⟩ := Option.bind_eq_some_iff.mp h
  cases h
  exact (hv.objectFields? hfs).defaulted (fun _ _ => Page.sized_of_ofJson?)
    ⟨by decide, by decide⟩ hpage

theorem FacetRequest.sized_of_ofJson? {emptyIsNull : Bool} {v : Json} (hv : v.Fits)
    {r : FacetRequest} (h : ofJson? emptyIsNull v = some r) : ∀ s ∈ r.facets, s.Sized := by
  obtain ⟨fs, hfs, h⟩ := Option.bind_eq_some_iff.mp h
  obtain ⟨_, -, h⟩ := Option.bind_eq_some_iff.mp h
  obtain ⟨facets, hfacets, h⟩ := Option.bind_eq_some_iff.mp h
  obtain ⟨_, -, h⟩ := Option.bind_eq_some_iff.mp h
  cases h
  exact (hv.objectFields? hfs).required (P := fun specs : List FacetSpec => ∀ s ∈ specs, s.Sized)
    (fun _ _ hu => hu.listOf? fun _ _ => FacetSpec.sized_of_ofJson?) hfacets

/-- A request that was decoded from a text can be written again. -/
theorem Request.sized_of_ofText? {text : String} {r : Request} (h : ofText? text = some r) :
    r.Sized := by
  obtain ⟨v, hv, h⟩ := Option.bind_eq_some_iff.mp h
  have hfits := fits_of_read? hv
  obtain ⟨fs, -, h⟩ := Option.bind_eq_some_iff.mp h
  split at h
  · obtain ⟨q, hq, rfl⟩ := Option.map_eq_some_iff.mp h
    exact SearchRequest.sized_of_ofJson? hfits hq
  · obtain ⟨q, hq, rfl⟩ := Option.map_eq_some_iff.mp h
    exact FacetRequest.sized_of_ofJson? hfits hq
  · obtain ⟨q, hq, rfl⟩ := Option.map_eq_some_iff.mp h
    trivial
  · cases h

theorem Config.maxPageSize_lt {v : Json} (hv : v.Fits) {c : Config} (h : ofJson? v = some c) :
    c.maxPageSize < UInt64.size := by
  obtain ⟨fs, hfs, h⟩ := Option.bind_eq_some_iff.mp h
  obtain ⟨_, -, h⟩ := Option.bind_eq_some_iff.mp h
  obtain ⟨size, hsize, h⟩ := Option.bind_eq_some_iff.mp h
  obtain ⟨_, -, h⟩ := Option.bind_eq_some_iff.mp h
  cases h
  exact (hv.fields? hfs).defaulted (P := (· < UInt64.size)) (fun _ _ => Fits.asNat?_lt) (by decide)
    hsize

/-! ## Texts -/

section Readable

variable (depth : Nat)

theorem Expression.readable (e : Expression) : Readable (depth + 1) e.toJson := by
  apply Readable.ofMembers
  simp only [List.forall_mem_cons]
  exact ⟨.text _, .ofWord _, .text _, by simp⟩

theorem FilterRequest.readable (r : FilterRequest) :
    ∀ m ∈ r.toFields, Readable (depth + 3) m.2 := by
  simp only [toFields, List.forall_mem_cons]
  refine ⟨.listMap fun group _ => .listMap fun e _ => e.readable depth,
    .listMap fun group _ => .listMap fun s _ => .text s, .ofOption fun s _ => .text s, by simp⟩

theorem Page.readable {p : Page} (h : p.Sized) : Readable (depth + 1) p.toJson := by
  apply Readable.ofMembers
  simp only [List.forall_mem_cons]
  exact ⟨.ofNat h.size, .ofNat h.offset, .ofOption fun s _ => .text s, .ofOption fun s _ => .text s,
    .ofOption fun s _ => .text s, by simp⟩

theorem MetricSpec.readable (m : MetricSpec) : Readable (depth + 1) m.toJson := by
  apply Readable.ofMembers
  simp only [List.forall_mem_cons]
  exact ⟨.ofOption fun s _ => .text s, .ofOption fun f _ => .ofWord f, by simp⟩

theorem RawGeometrySpec.readable (g : RawGeometrySpec) : Readable (depth + 1) g.toJson := by
  apply Readable.ofMembers
  simp only [List.forall_mem_cons]
  exact ⟨.text _, .ofOption fun s _ => .text s, by simp⟩

theorem FetchSpec.readable {f : FetchSpec} (h : f.size < UInt64.size) :
    Readable (depth + 2) f.toJson := by
  apply Readable.ofMembers
  simp only [List.forall_mem_cons]
  exact ⟨.ofNat h, .listMap fun s _ => .text s, by simp⟩

theorem FacetSpec.readable {s : FacetSpec} (h : s.Sized) : Readable (depth + 3) s.toJson := by
  apply Readable.ofMembers
  simp only [List.forall_mem_cons]
  exact ⟨.ofWord _, .ofOption fun s _ => .text s, .ofOption fun s _ => .text s,
    .ofOption fun s _ => .text s, .listMap fun m _ => m.readable depth,
    .ofOption fun o _ => .ofWord o, .ofOption fun o _ => .ofWord o,
    .ofOption fun n hn => .ofNat (h.size n hn), .ofOption fun s _ => .text s,
    .listMap fun g _ => .ofWord g, .listMap fun g _ => g.readable depth,
    .ofOption fun f hf => f.readable depth (h.fetch f hf), by simp⟩

theorem Request.readable {r : Request} (h : r.Sized) : Readable (depth + 5) r.toJson := by
  cases r with
  | search r =>
    apply Readable.ofMembers
    simp only [SearchRequest.toFields, List.forall_mem_cons, List.forall_mem_append]
    exact ⟨.text _, r.filter.readable (depth + 1), Page.readable (depth + 3) h, by simp⟩
  | facets r =>
    apply Readable.ofMembers
    simp only [FacetRequest.toFields, List.forall_mem_cons, List.forall_mem_append]
    exact ⟨.text _, r.filter.readable (depth + 1),
      .listMap fun s hs => FacetSpec.readable depth (h s hs), .bool _, by simp⟩
  | compute r =>
    apply Readable.ofMembers
    simp only [ComputationRequest.toFields, List.forall_mem_cons, List.forall_mem_append]
    exact ⟨.text _, r.filter.readable (depth + 1), .text _, .ofWord _, by simp⟩

theorem Collection.readable (c : Collection) : Readable (depth + 2) c.toJson := by
  apply Readable.ofMembers
  simp only [List.forall_mem_cons]
  exact ⟨.text _, .text _, .text _, .text _, .text _, .text _, .text _, .ofMap fun e _ => .text e.2,
    .ofMap fun e _ => .ofWord e.2, by simp⟩

theorem Config.readable {c : Config} (h : c.maxPageSize < UInt64.size) :
    Readable (depth + 4) c.toJson := by
  apply Readable.ofMembers
  simp only [List.forall_mem_cons]
  exact ⟨.ofWord _, .ofNat h, .listMap fun col _ => col.readable depth, by simp⟩

end Readable

/-- A request comes back from its text. -/
theorem Request.ofText?_print {r : Request} (h : r.Sized) : ofText? r.toJson.print = some r := by
  have hread : read? r.toJson.print = some r.toJson := read?_print (r.readable 122 h)
  rw [ofText?, hread, Option.bind_some, Request.inverts]

/-- A usable configuration is read from its text, if its page limit fits 64 bits and its maps are
ascending. -/
theorem Config.ofText_print_of_fits {c : Config} (hfits : c.maxPageSize < UInt64.size)
    (hordered : ∀ col ∈ c.collections, col.Ordered) (hfault : c.fault? = none) :
    ofText c.toJson.print = .ok c := by
  have hnames : ∀ m ∈ c.toJson.members, keys.contains m.1 = true := by
    intro m hm
    have hlisted := mem_of_mem_members hm
    simp only [List.mem_cons, List.not_mem_nil, or_false] at hlisted
    rcases hlisted with rfl | rfl | rfl <;> rfl
  have hread : readFor? keys c.toJson.print = some c.toJson :=
    readFor?_print hnames (Config.readable 123 hfits)
  rw [ofText, hread]
  exact ofDocument_eq_ok.mpr ⟨ofJson?_toJson hordered, hfault⟩

/-- A usable configuration comes back from its text. -/
theorem Config.ofText_print {text : String} {c : Config} (h : ofText text = .ok c) :
    ofText c.toJson.print = .ok c := by
  rw [ofText] at h
  split at h
  · rename_i v hv
    obtain ⟨hdecoded, hfault⟩ := ofDocument_eq_ok.mp h
    exact ofText_print_of_fits (maxPageSize_lt (fits_of_readFor? hv) hdecoded)
      (ordered_of_ofJson? hdecoded) hfault
  · cases h

/-- **Documents round-trip.** A request is decoded from the document it is encoded as, and from the
text of that document if its sizes fit 64 bits. A request or a usable configuration that was decoded
from any text comes back from the text that it is then written as, whatever defaults the first text
left out. -/
theorem documents_round_trip :
    (∀ r : Request, Request.ofJson? r.toJson = some r ∧
      (r.Sized → Request.ofText? r.toJson.print = some r)) ∧
    (∀ text r, Request.ofText? text = some r → Request.ofText? r.toJson.print = some r) ∧
    (∀ v c, Config.ofDocument v = .ok c → Config.ofDocument c.toJson = .ok c) ∧
    ∀ text c, Config.ofText text = .ok c → Config.ofText c.toJson.print = .ok c := by
  refine ⟨fun r => ⟨Request.inverts r, fun h => r.ofText?_print h⟩, fun text r h => ?_,
    fun v c h => ?_, fun text c h => ?_⟩
  · exact Request.ofText?_print (Request.sized_of_ofText? h)
  · exact Config.ofDocument_toJson h
  · exact Config.ofText_print h

/-- A request for the three most frequent kinds. -/
def threeKinds : FacetRequest :=
  ⟨⟨[], [], none⟩, [{ (default : FacetSpec) with
    type := .term, field := some "kind", size := some 3 }], false⟩

/-- Ships with two paths that every hit shows. -/
def ships : Collection where
  name := "ships"
  index := "ship_rows"
  idPath := "imo"
  geometryPath := "hull"
  centroidPath := "place"
  timestampPath := "seen"
  timestampFormat := "epoch_millis"
  customPaths := [("flag", "papers.flag"), ("owner", "papers.owner")]
  fields := [("hull", .geoShape), ("imo", .keyword), ("place", .geoPoint), ("seen", .date),
    ("tons", .double)]

/-- A document of the ships: its members and entries come in another order, and the format of the
timestamps is left out. -/
def shipsDocument : Json :=
  .object [("collections", .list [.object [
      ("fields", .object [("tons", .text "double"), ("imo", .text "keyword"),
        ("seen", .text "date"), ("hull", .text "geo_shape"), ("place", .text "geo_point")]),
      ("custom_paths", .object [("owner", .text "papers.owner"), ("flag", .text "papers.flag")]),
      ("timestamp_path", .text "seen"), ("centroid_path", .text "place"),
      ("geometry_path", .text "hull"), ("id_path", .text "imo"),
      ("index_name", .text "ship_rows"), ("collection_name", .text "ships")]]),
    ("max_page_size", .int 500), ("backend", .text "sql")]

/-- A text of piers, whose basin is their centroid too, with a default for the page limit. -/
def piersText : String :=
  "\x7b\"collections\": [\x7b\"collection_name\": \"piers\", \"index_name\": \"p\", " ++
    "\"id_path\": \"code\", \"geometry_path\": \"basin\", \"centroid_path\": \"basin\", " ++
    "\"timestamp_path\": \"at\", \"custom_paths\": \x7b\"flag\": \"f\"\x7d, " ++
    "\"fields\": \x7b\"basin\": \"geo_point\", \"at\": \"date\", \"code\": \"long\"\x7d\x7d]\x7d"

def piers : Collection where
  name := "piers"
  index := "p"
  idPath := "code"
  geometryPath := "basin"
  centroidPath := "basin"
  timestampPath := "at"
  timestampFormat := "epoch_millis"
  customPaths := [("flag", "f")]
  fields := [("at", .date), ("basin", .geoPoint), ("code", .long)]

/-- Documents that leave out what there is a default to come back with it. -/
theorem documents_round_trip_defaults :
    let kinds := "\x7b\"kind\": \"aggregate\", \"aggregations\": [" ++
      "\x7b\"type\": \"term\", \"field\": \"kind\", \"size\": 3\x7d]\x7d"
    let first : Request := .search ⟨⟨[], [], none⟩, Page.first⟩
    let fleet : Config := ⟨.sql, 500, [ships]⟩
    let coast : Config := ⟨.search, Config.defaultMaxPageSize, [piers]⟩
    first.Sized ∧ Request.ofText? first.toJson.print = some first ∧
      Request.ofText? kinds = some (.facets threeKinds) ∧
      Request.ofText? (Request.facets threeKinds).toJson.print = some (.facets threeKinds) ∧
      Config.ofDocument shipsDocument = .ok fleet ∧ Config.ofDocument fleet.toJson = .ok fleet ∧
      Config.ofText piersText = .ok coast ∧ Config.ofText coast.toJson.print = .ok coast := by
  intro kinds first fleet coast
  have hfirst : first.Sized := ⟨by decide, by decide⟩
  have hkinds : Request.ofText? kinds = some (.facets threeKinds) := by decide +kernel
  have hfleet : Config.ofDocument shipsDocument = .ok fleet := by decide +kernel
  have hcoast : Config.ofText piersText = .ok coast := by decide +kernel
  obtain ⟨hrequest, htext, hconfig, hconfigText⟩ := documents_round_trip
  exact ⟨hfirst, (hrequest first).2 hfirst, hkinds, htext kinds _ hkinds, hfleet,
    hconfig shipsDocument fleet hfleet, hcoast, hconfigText piersText coast hcoast⟩

end GeoFacet
