import GeoFacet.Facet.Plan
import GeoFacet.Proofs.Documents
import GeoFacet.Proofs.Outcome
import Mathlib.Data.List.Nodup

/-!
# Fields that facets use by default

A date histogram without a field uses the timestamp of its collection, and cells use the centroid.
Whether a path is declared, and as what, is looked at twice: by the check of a configuration, and by
the planner when a facet uses it. What the check asks for (`Collection.Sound`, `Config.Sound`) is
stated without its code; the planner never finds fault with a default field of a sound collection
(`FacetSpec.usesField_default`), so facets that name no field are never refused for one.

Main statement: `defaults_of_ofText`.
-/

namespace GeoFacet

open Outcome (FailsOnly)

/-! ## Usable collections -/

namespace Collection

/-- A path is declared with a suitable type. -/
def Declares (c : Collection) (path : String) (suitable : FieldType → Bool) : Prop :=
  ∃ t, c.type? path = some t ∧ suitable t = true

/-- A usable collection has names, and its well-known paths are declared as what they are for. -/
structure Sound (c : Collection) : Prop where
  name : Text.isBlank c.name = false
  index : Text.isBlank c.index = false
  id : c.Declares c.idPath fun t => !t.isGeometry
  geometry : c.Declares c.geometryPath FieldType.isGeometry
  centroid : c.Declares c.centroidPath FieldType.isPoint
  timestamp : c.Declares c.timestampPath FieldType.isDate

theorem pathFlaw?_eq_none_iff {c : Collection} {role path expected : String}
    {suitable : FieldType → Bool} :
    c.pathFlaw? role path expected suitable = none ↔ c.Declares path suitable := by
  unfold pathFlaw? Declares
  cases c.type? path with
  | none => simp
  | some t =>
    by_cases hsuitable : suitable t = true
    · simp [hsuitable]
    · simp [hsuitable]

theorem flaw?_eq_none_iff {c : Collection} : c.flaw? = none ↔ c.Sound := by
  unfold flaw?
  by_cases hblank : Text.isBlank c.name = true ∨ Text.isBlank c.index = true
  · rw [if_pos hblank]
    constructor
    · intro h
      cases h
    · intro h
      rw [h.name, h.index] at hblank
      simp at hblank
  · rw [if_neg hblank]
    simp only [Option.orElse_eq_orElse, Option.orElse_eq_or, Option.or_eq_none_iff,
      pathFlaw?_eq_none_iff]
    simp only [not_or, Bool.not_eq_true] at hblank
    constructor
    · rintro ⟨hid, hgeometry, hcentroid, htimestamp⟩
      exact ⟨hblank.1, hblank.2, hid, hgeometry, hcentroid, htimestamp⟩
    · intro h
      exact ⟨h.id, h.geometry, h.centroid, h.timestamp⟩

theorem fieldType_eq_ok {c : Collection} {path : String} {t : FieldType} :
    c.fieldType path = .ok t ↔ c.type? path = some t := by
  unfold fieldType
  cases c.type? path with
  | none => simp
  | some t' => simp

end Collection

/-! ## Usable configurations -/

namespace Config

/-- A usable configuration has pages, and usable collections of different names. -/
structure Sound (config : Config) : Prop where
  pages : 0 < config.maxPageSize
  names : (config.collections.map Collection.name).Nodup
  collections : ∀ c ∈ config.collections, c.Sound

theorem collectionsFault?_eq_none_iff {seen : List String} {cs : List Collection} :
    collectionsFault? seen cs = none ↔
      (∀ c ∈ cs, c.name ∉ seen) ∧ (cs.map Collection.name).Nodup ∧ ∀ c ∈ cs, c.Sound := by
  induction cs generalizing seen with
  | nil => simp [collectionsFault?]
  | cons c rest ih =>
    rw [collectionsFault?]
    by_cases hseen : c.name ∈ seen
    · simp [hseen]
    · cases hflaw : c.flaw? with
      | some flaw =>
        have hunsound : ¬c.Sound := by
          rw [← Collection.flaw?_eq_none_iff, hflaw]
          simp
        simp [hseen, hunsound]
      | none =>
        have hsound : c.Sound := Collection.flaw?_eq_none_iff.mp hflaw
        simp only [List.contains_eq_mem, hseen, decide_false, Bool.false_eq_true, if_false, ih,
          List.forall_mem_cons, List.map_cons, List.nodup_cons, hsound, not_false_eq_true, true_and]
        -- The name of the first collection joins those seen, which is how equal names are found.
        constructor
        · rintro ⟨hfresh, hnames, hrest⟩
          refine ⟨fun c' hc' hmem => hfresh c' hc' (List.mem_cons_of_mem _ hmem), ⟨?_, hnames⟩,
            hrest⟩
          intro hmem
          obtain ⟨c', hc', hname⟩ := List.mem_map.mp hmem
          exact hfresh c' hc' (hname ▸ List.mem_cons_self)
        · rintro ⟨hfresh, ⟨hname, hnames⟩, hrest⟩
          refine ⟨fun c' hc' hmem => ?_, hnames, hrest⟩
          rcases List.mem_cons.mp hmem with heq | hmem
          · exact hname (heq ▸ List.mem_map_of_mem hc')
          · exact hfresh c' hc' hmem

theorem fault?_eq_none_iff {config : Config} : config.fault? = none ↔ config.Sound := by
  unfold fault?
  by_cases hpages : config.maxPageSize = 0
  · rw [if_pos hpages]
    constructor
    · intro h
      cases h
    · intro h
      exact absurd hpages (Nat.ne_of_gt h.pages)
  · rw [if_neg hpages, collectionsFault?_eq_none_iff]
    constructor
    · rintro ⟨-, hnames, hsound⟩
      exact ⟨Nat.pos_of_ne_zero hpages, hnames, hsound⟩
    · intro h
      exact ⟨fun c _ => List.not_mem_nil, h.names, h.collections⟩

theorem sound_of_ofText {text : String} {config : Config} (h : ofText text = .ok config) :
    config.Sound := by
  unfold ofText at h
  split at h
  · exact fault?_eq_none_iff.mp (ofDocument_eq_ok.mp h).2
  · cases h

/-- In a usable configuration a name leads to the one collection that has it. -/
theorem Sound.collection_eq_ok {config : Config} (h : config.Sound) {name : String}
    {c : Collection} :
    config.collection name = .ok c ↔ c ∈ config.collections ∧ c.name = name := by
  rw [collection, Outcome.orRefuse_eq_ok]
  constructor
  · intro hfound
    exact ⟨List.mem_of_find?_eq_some hfound, by simpa using List.find?_some hfound⟩
  · rintro ⟨hc, rfl⟩
    have hsome : (config.collections.find? fun c' => c'.name = c.name).isSome := by
      rw [List.find?_isSome]
      exact ⟨c, hc, by simp⟩
    obtain ⟨c', hfound⟩ := Option.isSome_iff_exists.mp hsome
    have hname : c'.name = c.name := by simpa using List.find?_some hfound
    rw [hfound, List.inj_on_of_nodup_map h.names (List.mem_of_find?_eq_some hfound) hc hname]

end Config

/-! ## Default fields -/

/-- The path that a level uses where it names none. -/
def Collection.defaultPath? (c : Collection) : FacetType → Option String
  | .dateHistogram => some c.timestampPath
  | .geohash | .geotile => some c.centroidPath
  | .histogram | .term => none

namespace FacetSpec

variable {c : Collection} {s : FacetSpec}

/-- The field of a level is left out or blank. -/
def NamesNoField (s : FacetSpec) : Prop := ∀ field, s.field = some field → Text.isBlank field = true

/-- The planner settles on a path, which is declared with a type that suits the level. -/
def UsesField (c : Collection) (path : String) (s : FacetSpec) : Prop :=
  s.resolveField c = .ok path ∧
    ∃ t, c.fieldType path = .ok t ∧ checkFieldType s.type path t = .ok ()

theorem resolveField_of_namesNoField (hs : s.NamesNoField) :
    s.resolveField c = orRefuse (.missingFacetField s.type) (c.defaultPath? s.type) := by
  have hnone : s.field.filter (fun f => !Text.isBlank f) = none := by
    rw [Option.filter_eq_none_iff]
    intro field hfield
    simp [hs field hfield]
  rw [resolveField, hnone]
  cases s.type <;> rfl

/-- **The planner finds no fault with a default field.** -/
theorem usesField_default (hc : c.Sound) (hs : s.NamesNoField) {path : String}
    (hpath : c.defaultPath? s.type = some path) : s.UsesField c path := by
  refine ⟨by rw [resolveField_of_namesNoField hs, hpath]; rfl, ?_⟩
  have hdeclared : c.Declares path (suits s.type) := by
    cases htype : s.type with
    | dateHistogram =>
      rw [htype] at hpath
      cases hpath
      exact hc.timestamp
    | geohash =>
      rw [htype] at hpath
      cases hpath
      exact hc.centroid
    | geotile =>
      rw [htype] at hpath
      cases hpath
      exact hc.centroid
    | histogram =>
      rw [htype] at hpath
      cases hpath
    | term =>
      rw [htype] at hpath
      cases hpath
  obtain ⟨t, ht, hsuits⟩ := hdeclared
  exact ⟨t, Collection.fieldType_eq_ok.mpr ht, if_pos hsuits⟩

end FacetSpec

/-! ## Faults that no field is to blame for -/

/-- Whether a field is to blame: it is not declared, or its type does not suit its use in a
facet. -/
def Cause.blamesField : Cause → Bool
  | .unknownField .. | .fieldOnFacet .. | .collectPoint .. | .collectMeasure ..
  | .cardinalityOnGeometry .. | .rawGeometryType .. => true
  | _ => false

/-- A fault that no field is to blame for, and no missing name at all. -/
structure Fault.SparesFields (e : Fault) : Prop where
  code : e.code ≠ .notFound
  field : e.field = none
  cause : e.cause.blamesField = false

theorem Fault.SparesFields.withContext {e : Fault} (h : e.SparesFields) (context : String) :
    (e.withContext context).SparesFields := ⟨h.code, h.field, h.cause⟩

namespace FacetSpec

variable {c : Collection} {s : FacetSpec}

theorem sparesFields_checkFormat (s : FacetSpec) :
    FailsOnly Fault.SparesFields s.checkFormat := by
  unfold checkFormat
  split
  · exact .refuse ⟨nofun, rfl, rfl⟩
  · exact .ok ()

theorem sparesFields_parse (text : String) :
    FailsOnly Fault.SparesFields (Interval.parse text) :=
  .orRefuse fun _ => ⟨nofun, rfl, rfl⟩

theorem sparesFields_dateKind (interval : String) :
    FailsOnly Fault.SparesFields (dateKind interval) := by
  refine (sparesFields_parse interval).bind fun parsed _ => ?_
  refine (FailsOnly.orRefuse fun _ => ⟨nofun, rfl, rfl⟩).bind fun unit _ => ?_
  refine (FailsOnly.orRefuse fun _ => ⟨nofun, rfl, rfl⟩).bind fun multiplier _ => ?_
  split
  · exact .refuse ⟨nofun, rfl, rfl⟩
  · exact .ok _

theorem sparesFields_histogramKind (interval : String) :
    FailsOnly Fault.SparesFields (histogramKind interval) := by
  refine (sparesFields_parse interval).bind fun parsed _ => ?_
  split
  · exact .refuse ⟨nofun, rfl, rfl⟩
  · exact .ok _

theorem sparesFields_precision (interval : String) (min max : Nat) :
    FailsOnly Fault.SparesFields (precision interval min max) := by
  unfold precision
  split
  · exact .ok _
  · exact .refuse ⟨nofun, rfl, rfl⟩

theorem sparesFields_resolveKind (s : FacetSpec) :
    FailsOnly Fault.SparesFields s.resolveKind := by
  unfold resolveKind
  split
  · exact .refuse ⟨nofun, rfl, rfl⟩
  · exact .ok _
  · split
    · exact .refuse ⟨nofun, rfl, rfl⟩
    · dsimp only
      split
      · exact sparesFields_dateKind _
      · exact sparesFields_histogramKind _
      · exact (sparesFields_precision _ _ _).map _
      · exact (sparesFields_precision _ _ _).map _
      · exact .ok _

theorem sparesFields_resolveOrder (s : FacetSpec) (metrics : List PlannedMetric) :
    FailsOnly Fault.SparesFields (s.resolveOrder metrics) := by
  unfold resolveOrder
  split
  · split
    · exact .refuse ⟨nofun, rfl, rfl⟩
    · exact .ok _
  · split
    · exact .ok _
    · exact .ok _
    · exact .ok _
    · split
      · exact .ok _
      · exact .refuse ⟨nofun, rfl, rfl⟩
    · exact .refuse ⟨nofun, rfl, rfl⟩
    · exact .refuse ⟨nofun, rfl, rfl⟩

theorem sparesFields_checkSize (s : FacetSpec) : FailsOnly Fault.SparesFields s.checkSize := by
  unfold checkSize
  split
  · exact .refuse ⟨nofun, rfl, rfl⟩
  · split
    · exact .refuse ⟨nofun, rfl, rfl⟩
    · exact .ok ()

theorem sparesFields_checkPattern (s : FacetSpec) :
    FailsOnly Fault.SparesFields s.checkPattern := by
  unfold checkPattern
  split
  · exact .ok ()
  · split
    · exact .refuse ⟨nofun, rfl, rfl⟩
    · split
      · exact .ok ()
      · exact .refuse ⟨nofun, rfl, rfl⟩

theorem sparesFields_items (pattern : String) :
    FailsOnly Fault.SparesFields (DatePattern.items pattern) := by
  unfold DatePattern.items
  split
  · exact .ok _
  · exact .refuse ⟨nofun, rfl, rfl⟩
  · exact .refuse ⟨nofun, rfl, rfl⟩

theorem sparesFields_resolveFormat (s : FacetSpec) :
    FailsOnly Fault.SparesFields s.resolveFormat := by
  unfold resolveFormat
  split
  · refine FailsOnly.map ?_ _
    unfold DateFormat.ofText
    split
    · exact .ok _
    · split
      · exact .ok _
      · exact (sparesFields_items _).map _
  · exact .ok _

theorem sparesFields_resolveGeometries (type : FacetType) (chosen gs : List AggregatedGeometry) :
    FailsOnly Fault.SparesFields (resolveGeometries type chosen gs) := by
  induction gs generalizing chosen with
  | nil => exact .ok chosen
  | cons g rest ih =>
    rw [resolveGeometries]
    split
    · exact .refuse ⟨nofun, rfl, rfl⟩
    · exact ih _

theorem sparesFields_fetchPath (raw : String) :
    FailsOnly Fault.SparesFields (fetchPath raw) := by
  unfold fetchPath
  dsimp only
  split
  all_goals
    dsimp only
    split
    · exact .refuse ⟨nofun, rfl, rfl⟩
    · exact .ok _

theorem sparesFields_planFetch (s : FacetSpec) : FailsOnly Fault.SparesFields s.planFetch := by
  unfold planFetch
  split
  · exact .ok _
  · split
    · exact .refuse ⟨nofun, rfl, rfl⟩
    · exact (FailsOnly.mapM fun raw _ => sparesFields_fetchPath raw).bind fun paths _ => .ok _

/-- A specification in which no field is named: neither its own nor one to collect or to show. -/
structure Fieldless (s : FacetSpec) : Prop where
  field : s.NamesNoField
  metrics : s.metrics = []
  rawGeometries : s.rawGeometries = []

theorem Fieldless.sparesFields_toLevel (hc : c.Sound) (hs : s.Fieldless) (depth : Nat) :
    FailsOnly Fault.SparesFields (toLevel c depth s) := by
  have hresolve : FailsOnly Fault.SparesFields (s.resolveField c) := by
    rw [resolveField_of_namesNoField hs.field]
    exact .orRefuse fun _ => ⟨nofun, rfl, rfl⟩
  refine (sparesFields_checkFormat s).bind fun _ _ => hresolve.bind fun path hpath => ?_
  -- the look-up and the check of the field succeed, so they add no fault of their own
  rw [resolveField_of_namesNoField hs.field, Outcome.orRefuse_eq_ok] at hpath
  obtain ⟨-, t, ht, hsuits⟩ := usesField_default hc hs.field hpath
  rw [ht, Outcome.ok_bind, hsuits, Outcome.ok_bind]
  refine (sparesFields_resolveKind s).bind fun kind _ => ?_
  rw [hs.metrics, planMetrics, Outcome.ok_bind]
  refine (sparesFields_resolveOrder s []).bind fun order _ => ?_
  refine (sparesFields_checkSize s).bind fun _ _ => ?_
  refine (sparesFields_checkPattern s).bind fun _ _ => ?_
  refine (sparesFields_resolveFormat s).bind fun format _ => ?_
  refine (sparesFields_resolveGeometries s.type [] _).bind fun geometries _ => ?_
  rw [hs.rawGeometries, groupRaw, Outcome.ok_bind]
  exact (sparesFields_planFetch s).bind fun fetch _ => .ok _

theorem sparesFields_toLevels (hc : c.Sound) {specs : List FacetSpec}
    (hspecs : ∀ s ∈ specs, s.Fieldless) (depth : Nat) :
    FailsOnly Fault.SparesFields (toLevels c depth specs) := by
  induction specs generalizing depth with
  | nil => exact .ok []
  | cons s rest ih =>
    rw [toLevels]
    refine FailsOnly.bind ?_ fun level _ => ?_
    · refine ((hspecs s List.mem_cons_self).sparesFields_toLevel hc depth).mapError ?_
      intro e he
      exact he.withContext _
    · have hrest := ih (fun s' hs' => hspecs s' (List.mem_cons_of_mem s hs')) (depth + 1)
      exact hrest.bind fun levels _ => .ok _

end FacetSpec

theorem FacetPlan.sparesFields_compile {c : Collection} (hc : c.Sound) (geo : Bool)
    {specs : List FacetSpec} (hspecs : ∀ s ∈ specs, s.Fieldless) :
    FailsOnly Fault.SparesFields (compile c geo specs) := by
  unfold compile
  split
  · exact .refuse ⟨nofun, rfl, rfl⟩
  · refine (FacetSpec.sparesFields_toLevels hc hspecs 0).bind fun levels _ => ?_
    split
    · split
      · exact .refuse ⟨nofun, rfl, rfl⟩
      · exact .ok _
    · exact .refuse ⟨nofun, rfl, rfl⟩

/-- **Every default field of an accepted configuration can be used.** The names of its collections
are distinct, and a name leads to the collection that has it. In each of them, a date histogram
whose field is left out or blank uses the timestamp and cells use the centroid, and both are
declared with a type that suits. So a list of levels that name no field, neither their own nor for
metrics or raw geometries, is refused only for what is not about a field or a name. -/
theorem defaults_of_ofText {text : String} {config : Config} (h : Config.ofText text = .ok config) :
    (config.collections.map Collection.name).Nodup ∧
      (∀ name c, config.collection name = .ok c ↔ c ∈ config.collections ∧ c.name = name) ∧
      ∀ c ∈ config.collections,
        (∀ s : FacetSpec, s.NamesNoField →
          (s.type = .dateHistogram → s.UsesField c c.timestampPath) ∧
          (s.type = .geohash ∨ s.type = .geotile → s.UsesField c c.centroidPath)) ∧
        ∀ geo specs, (∀ s ∈ specs, s.Fieldless) →
          FailsOnly Fault.SparesFields (FacetPlan.compile c geo specs) := by
  have hsound : config.Sound := Config.sound_of_ofText h
  refine ⟨hsound.names, fun name c => hsound.collection_eq_ok, fun c hc => ⟨fun s hs => ⟨?_, ?_⟩,
    fun geo specs hspecs => FacetPlan.sparesFields_compile (hsound.collections c hc) geo hspecs⟩⟩
  · intro htype
    exact FacetSpec.usesField_default (hsound.collections c hc) hs (by rw [htype]; rfl)
  · intro htype
    refine FacetSpec.usesField_default (hsound.collections c hc) hs ?_
    rcases htype with htype | htype
    · rw [htype]
      rfl
    · rw [htype]
      rfl

/-- Where and when animals were seen. -/
def placesOf (animal : String) : Collection :=
  ⟨animal, animal, "id", "place", "place", "seen", "epoch_millis", [],
    [("id", .keyword), ("place", .geoPoint), ("seen", .date)]⟩

def places : Config := ⟨.sql, 100, [placesOf "foxes", placesOf "birds"]⟩

/-- Months with a blank field. -/
def blankMonths : FacetSpec :=
  { (default : FacetSpec) with
    type := .dateHistogram, field := some " ", interval := some "month" }

/-- Cells without a field and, wrongly, without a precision. -/
def bareCells : FacetSpec := { (default : FacetSpec) with type := .geohash }

theorem defaults_of_ofText_places : ∃ e, Config.ofText places.toJson.print = .ok places ∧
    places.collection "birds" = .ok (placesOf "birds") ∧
      blankMonths.UsesField (placesOf "birds") "seen" ∧
      bareCells.UsesField (placesOf "birds") "place" ∧
      FacetPlan.compile (placesOf "birds") false [blankMonths, bareCells] = .error e ∧
      e.SparesFields := by
  have hordered (animal : String) : (placesOf animal).Ordered := by
    refine ⟨.nil, ?_⟩
    have hfields : [("id", FieldType.keyword), ("place", .geoPoint), ("seen", .date)].Pairwise
        fun field field' => field.1 < field'.1 := by decide
    exact hfields
  have hconfig : Config.ofText places.toJson.print = .ok places :=
    Config.ofText_print_of_fits (by decide) (by simp [places, hordered]) (by decide)
  obtain ⟨-, hlookup, hdefaults⟩ := defaults_of_ofText hconfig
  have hbirds : placesOf "birds" ∈ places.collections := .tail _ (.head _)
  obtain ⟨hfields, hfaults⟩ := hdefaults _ hbirds
  have hmonths : blankMonths.Fieldless := by
    refine ⟨?_, rfl, rfl⟩
    intro field hfield
    cases hfield
    decide
  have hcells : bareCells.Fieldless := ⟨nofun, rfl, rfl⟩
  have hspecs : ∀ s ∈ [blankMonths, bareCells], s.Fieldless := by simp [hmonths, hcells]
  have hrefused : (FacetPlan.compile (placesOf "birds") false
      [blankMonths, bareCells]).toOption = none := by decide +kernel
  cases hplan : FacetPlan.compile (placesOf "birds") false [blankMonths, bareCells] with
  | error e =>
    exact ⟨e, hconfig, (hlookup "birds" _).mpr ⟨hbirds, rfl⟩, (hfields _ hmonths.field).1 rfl,
      (hfields _ hcells.field).2 (.inl rfl), rfl, hfaults false _ hspecs e hplan⟩
  | ok plan =>
    rw [hplan] at hrefused
    cases hrefused

end GeoFacet
