import GeoFacet.CommandLine.Run
import GeoFacet.Proofs.Facet.Levels

/-!
# Faults of native results

A request that was accepted can still fail when the native result of its plan is read. A result
that lacks a part, or has a value of the wrong type for a key, is a fault of the backend. The
exception is a key of the right type that names no bucket (`FacetLevel.Misnames`): a text that is no
cell of its level, or an instant beyond the calendar. It is read by the readers of request values and
is refused in their words, as if the request were at fault.

Main statement: `assemble_faults`.
-/

namespace GeoFacet

open Outcome (FailsOnly)

/-! ## Keys of levels -/

namespace FacetLevel

/-- A key has the type that its level asks for and names no bucket of it. Cells are only looked at
where the level has aggregated geometries, and instants only where they are written by a pattern. -/
inductive Misnames (l : FacetLevel) : Json → Cause → Prop
  | instant {key : Json} {millis : Int} {items : List DateItem} (htype : l.type = .dateHistogram)
      (hformat : DateFormat.ofText l.format = .ok (.pattern items))
      (hkey : keyMillis? key = some millis)
      (hday : ¬(Calendar.firstDay ≤ millis / 86400000 ∧ millis / 86400000 ≤ Calendar.lastDay)) :
      Misnames l key (.timestampOutOfRange millis)
  | geohash {hash : String} (htype : l.type = .geohash) (hasked : l.aggregatedGeometries ≠ [])
      (hcell : (Geohash.cell? hash : Option (BoundingBox Float)) = none) :
      Misnames l (.text hash) (.malformedGeohash hash)
  | geotile {tile : String} (htype : l.type = .geotile) (hasked : l.aggregatedGeometries ≠ [])
      (hcell : Tile.ofKey? tile = none) : Misnames l (.text tile) (.malformedTile tile)

/-- What a key of a level may fail with: a fault of the backend, or the refusal of a key that names
no bucket. -/
def KeyFault (l : FacetLevel) (key : Json) (e : Fault) : Prop :=
  e.code = .backend ∨ ∃ cause, l.Misnames key cause ∧ e = .of cause

variable {l : FacetLevel} {key : Json}

/-- A misnamed key is reported as an error of the client. -/
theorem Misnames.code_eq {cause : Cause} (h : l.Misnames key cause) :
    cause.code = .invalidParameter := by
  cases h <;> rfl

/-- Instants are written up to the ends of the calendar. -/
theorem write?_eq_none_iff {items : List DateItem} {millis : Int} :
    DatePattern.write? items millis = none ↔
      ¬(Calendar.firstDay ≤ millis / 86400000 ∧ millis / 86400000 ≤ Calendar.lastDay) := by
  unfold DatePattern.write?
  by_cases hday : Calendar.firstDay ≤ millis / 86400000 ∧ millis / 86400000 ≤ Calendar.lastDay
  · simp [hday]
  · simp only [hday, if_false, not_false_eq_true]

theorem asText?_eq_some {v : Json} {s : String} : v.asText? = some s ↔ v = .text s := by
  cases v <;> simp [Json.asText?]

/-! ### What keys fail with -/

theorem failsOnly_keyText (hformat : ∃ f, DateFormat.ofText l.format = .ok f) (key : Json) :
    FailsOnly (l.KeyFault key) (l.keyText key) := by
  obtain ⟨f, hf⟩ := hformat
  unfold keyText
  split
  · rename_i unit multiplier hkind
    refine (FailsOnly.orRefuse fun _ => .inl rfl).bind fun millis hmillis => ?_
    refine FailsOnly.map ?_ some
    unfold writeDate
    rw [hf, Outcome.ok_bind]
    cases f with
    | epochMillis => exact .ok _
    | epochSecond => exact .ok _
    | pattern items =>
      have htype : l.type = .dateHistogram := by rw [FacetLevel.type, hkind, FacetKind.type]
      refine FailsOnly.orRefuse fun hwrite => .inr ⟨_, ?_, rfl⟩
      exact .instant htype hf (Outcome.orRefuse_eq_ok.mp hmillis) (write?_eq_none_iff.mp hwrite)
  · exact .ok none

/-- Where cells are looked at, a text that is none of them is misnamed. -/
theorem failsOnly_cellBox (hasked : l.aggregatedGeometries ≠ []) (key : Json) :
    FailsOnly (l.KeyFault key) (l.kind.cellBox key) := by
  have htext : FailsOnly (l.KeyFault key) (FacetKind.cellKey key) :=
    .orRefuse fun _ => .inl rfl
  unfold FacetKind.cellBox
  split
  · rename_i p hkind
    have htype : l.type = .geohash := by rw [FacetLevel.type, hkind, FacetKind.type]
    refine htext.bind fun hash hhash => FailsOnly.bind ?_ fun box _ => .ok _
    rw [asText?_eq_some.mp (Outcome.orRefuse_eq_ok.mp hhash)]
    exact FailsOnly.orRefuse fun hcell => .inr ⟨_, .geohash htype hasked hcell, rfl⟩
  · rename_i p hkind
    have htype : l.type = .geotile := by rw [FacetLevel.type, hkind, FacetKind.type]
    refine htext.bind fun tile htile => FailsOnly.bind ?_ fun box _ => .ok _
    rw [asText?_eq_some.mp (Outcome.orRefuse_eq_ok.mp htile)]
    exact FailsOnly.orRefuse fun hcell => .inr ⟨_, .geotile htype hasked hcell, rfl⟩
  · exact .ok none

theorem failsOnly_geometriesOf (key : Json) (computed : AggregatedGeometry → Option Json) :
    FailsOnly (l.KeyFault key) (l.geometriesOf key computed) := by
  unfold geometriesOf
  by_cases hnone : l.aggregatedGeometries.isEmpty
  · rw [if_pos hnone]
    exact .ok []
  · rw [if_neg hnone]
    exact (failsOnly_cellBox (by simpa using hnone) key).bind fun cell _ => .ok _

/-- A misnamed key is refused when its text is written, or when its cell is drawn. -/
theorem Misnames.refused {cause : Cause} (h : l.Misnames key cause) :
    l.keyText key = refuse cause ∨
      l.keyText key = .ok none ∧ ∀ computed, l.geometriesOf key computed = refuse cause := by
  -- The key of a cell has no text of its own, so it fails only when the cell is drawn.
  have hdrawn {cause : Cause} (hasked : l.aggregatedGeometries ≠ [])
      (hcell : l.kind.cellBox key = refuse cause) (computed : AggregatedGeometry → Option Json) :
      l.geometriesOf key computed = refuse cause := by
    rw [geometriesOf, if_neg (by simpa using hasked), hcell]
    rfl
  cases h with
  | @instant _ millis items htype hformat hkey hday =>
    refine .inl ?_
    unfold keyText
    cases hkind : l.kind <;> rw [FacetLevel.type, hkind, FacetKind.type] at htype <;> cases htype
    rw [hkey, orRefuse, Outcome.ok_bind, writeDate, hformat, Outcome.ok_bind]
    simp only [write?_eq_none_iff.mpr hday]
    rfl
  | geohash htype hasked hcell =>
    refine .inr ?_
    cases hkind : l.kind <;> rw [FacetLevel.type, hkind, FacetKind.type] at htype <;> cases htype
    refine ⟨by rw [keyText, hkind], hdrawn hasked ?_⟩
    rw [hkind, FacetKind.cellBox, FacetKind.cellKey, Json.asText?, orRefuse, Outcome.ok_bind,
      Geohash.cell, hcell, orRefuse]
    rfl
  | geotile htype hasked hcell =>
    refine .inr ?_
    cases hkind : l.kind <;> rw [FacetLevel.type, hkind, FacetKind.type] at htype <;> cases htype
    refine ⟨by rw [keyText, hkind], hdrawn hasked ?_⟩
    rw [hkind, FacetKind.cellBox, FacetKind.cellKey, Json.asText?, orRefuse, Outcome.ok_bind,
      Tile.ofKey, hcell, orRefuse]
    rfl

end FacetLevel

/-! ## Formats of accepted levels -/

theorem FacetSpec.format_of_toLevel {c : Collection} {depth : Nat} {s : FacetSpec} {l : FacetLevel}
    (h : toLevel c depth s = .ok l) : ∃ f, DateFormat.ofText l.format = .ok f := by
  obtain ⟨_, -, h⟩ := Outcome.bind_eq_ok.mp h
  obtain ⟨field, -, h⟩ := Outcome.bind_eq_ok.mp h
  obtain ⟨fieldType, -, h⟩ := Outcome.bind_eq_ok.mp h
  obtain ⟨_, -, h⟩ := Outcome.bind_eq_ok.mp h
  obtain ⟨kind, -, h⟩ := Outcome.bind_eq_ok.mp h
  obtain ⟨ms, -, h⟩ := Outcome.bind_eq_ok.mp h
  obtain ⟨order, -, h⟩ := Outcome.bind_eq_ok.mp h
  obtain ⟨_, -, h⟩ := Outcome.bind_eq_ok.mp h
  obtain ⟨_, -, h⟩ := Outcome.bind_eq_ok.mp h
  obtain ⟨format, hformat, h⟩ := Outcome.bind_eq_ok.mp h
  obtain ⟨geometries, -, h⟩ := Outcome.bind_eq_ok.mp h
  obtain ⟨raw, -, h⟩ := Outcome.bind_eq_ok.mp h
  obtain ⟨fetch, -, h⟩ := Outcome.bind_eq_ok.mp h
  cases h
  show ∃ f, DateFormat.ofText format = .ok f
  unfold resolveFormat at hformat
  split at hformat
  · obtain ⟨f, hf, rfl⟩ := Outcome.map_eq_ok.mp hformat
    exact ⟨f, hf⟩
  · cases hformat
    obtain ⟨f, hf, -⟩ := Outcome.exists_of_any
      (o := DateFormat.ofText DateFormat.defaultKeyFormat) (p := fun _ => true) (by decide +kernel)
    exact ⟨f, hf⟩

/-- The keys of the levels of an accepted plan are shown in sound formats. -/
theorem FacetPlan.format_of_compile {c : Collection} {geo : Bool} {specs : List FacetSpec}
    {plan : FacetPlan} (h : compile c geo specs = .ok plan) :
    ∀ l ∈ plan.levels, ∃ f, DateFormat.ofText l.format = .ok f := by
  intro l hl
  obtain ⟨i, hi⟩ := List.mem_iff_getElem?.mp hl
  obtain ⟨s, -, hlevel⟩ := FacetSpec.toLevel_of_toLevels (levels_of_compile h).1 hi
  exact FacetSpec.format_of_toLevel hlevel

/-! ## Nested buckets -/

namespace Search

/-- A container sends a key at a level: that of one of its buckets, or one inside of them. -/
inductive Sends : List FacetLevel → Json → FacetLevel → Json → Prop
  | here {l : FacetLevel} {below : List FacetLevel} {container item : Json} {items : List Json}
      (hitems : (container.member "buckets").asList? = some items) (hitem : item ∈ items) :
      Sends (l :: below) container l (item.member "key")
  | inside {l child l' : FacetLevel} {below : List FacetLevel} {container item inner key : Json}
      {items : List Json} (hitems : (container.member "buckets").asList? = some items)
      (hitem : item ∈ items) (hinner : item.get? child.name = some inner)
      (h : Sends (child :: below) inner l' key) : Sends (l :: child :: below) container l' key

variable {c : Collection} {l : FacetLevel} {item : Json}

theorem failsOnly_bucketAlone (c : Collection) (hformat : ∃ f, DateFormat.ofText l.format = .ok f)
    (item : Json) : FailsOnly (l.KeyFault (item.member "key")) (bucketAlone c l item) := by
  refine (FacetLevel.failsOnly_keyText hformat _).bind fun text _ => ?_
  exact (FacetLevel.failsOnly_geometriesOf _ _).bind fun geometries _ => .ok _

theorem bucketAlone_of_misnames {cause : Cause} (h : l.Misnames (item.member "key") cause) :
    bucketAlone c l item = refuse cause := by
  rcases h.refused with htext | ⟨htext, hgeometries⟩
  · simp only [bucketAlone, htext]
    rfl
  · simp only [bucketAlone, htext, Outcome.ok_bind, hgeometries]
    rfl

/-- **What nested buckets fail with.** -/
theorem failsOnly_buckets (c : Collection) {levels : List FacetLevel}
    (hformat : ∀ l ∈ levels, ∃ f, DateFormat.ofText l.format = .ok f) (container : Json) :
    FailsOnly (fun e => e.code = .backend ∨ ∃ l key cause,
      Sends levels container l key ∧ l.Misnames key cause ∧ e = .of cause)
      (buckets c levels container) := by
  induction levels generalizing container with
  | nil => exact .ok []
  | cons l below ih =>
    refine (FailsOnly.orRefuse fun _ => .inl rfl).bind fun items hitems => ?_
    replace hitems := Outcome.orRefuse_eq_ok.mp hitems
    refine FailsOnly.mapM fun item hitem => FailsOnly.bind ?_ fun bucket _ => ?_
    · intro e he
      rcases failsOnly_bucketAlone c (hformat l List.mem_cons_self) item e he with hcode | hkey
      · exact .inl hcode
      · obtain ⟨cause, hcause, rfl⟩ := hkey
        exact .inr ⟨l, _, cause, .here hitems hitem, hcause, rfl⟩
    · cases below with
      | nil => exact .ok bucket
      | cons child rest =>
        refine (FailsOnly.orRefuse fun _ => .inl rfl).bind fun inner hinner => ?_
        replace hinner := Outcome.orRefuse_eq_ok.mp hinner
        refine FailsOnly.bind ?_ fun children _ => .ok _
        intro e he
        -- The fault comes from a key further inside, which is sent through this item.
        rcases ih (fun l' hl' => hformat l' (List.mem_cons_of_mem l hl')) inner e he with
          hcode | ⟨l', key, cause, hsends, hcause, rfl⟩
        · exact .inl hcode
        · exact .inr ⟨l', key, cause, .inside hitems hitem hinner hsends, hcause, rfl⟩

/-- A container fails with its first bucket. -/
theorem buckets_of_misnames {below : List FacetLevel} {container : Json} {rest : List Json}
    (hitems : (container.member "buckets").asList? = some (item :: rest)) {cause : Cause}
    (h : l.Misnames (item.member "key") cause) :
    buckets c (l :: below) container = refuse cause := by
  unfold buckets
  rw [hitems, orRefuse, Outcome.ok_bind, Outcome.mapM_cons, bucketAlone_of_misnames h]
  rfl

theorem failsOnly_assembleHits (c : Collection) (reverse : Bool) (result : Json) :
    FailsOnly (·.code = .backend) (assembleHits c reverse result) :=
  FailsOnly.bind (.orRefuse fun _ => rfl) fun _ _ => .ok _

end Search

/-! ## Rows -/

namespace Sql

/-- The rows send a key at a level, below the buckets with the given keys: that of a row below them,
or one further inside. -/
inductive Sends (rows : Rows) : List FacetLevel → List Json → List FacetLevel →
    FacetLevel → Json → Prop
  | here {above below : List FacetLevel} {keys : List Json} {l : FacetLevel} {sent : List Row}
      {row : Row} (hsent : rows.ofPurpose (.level l.depth) = .ok sent) (hrow : row ∈ sent)
      (hkeys : (above.map row.key == keys) = true) :
      Sends rows above keys (l :: below) l (row.key l)
  | inside {above below : List FacetLevel} {keys : List Json} {l child l' : FacetLevel}
      {sent : List Row} {row : Row} {key : Json}
      (hsent : rows.ofPurpose (.level l.depth) = .ok sent) (hrow : row ∈ sent)
      (hkeys : (above.map row.key == keys) = true)
      (h : Sends rows (above ++ [l]) (keys ++ [row.key l]) (child :: below) l' key) :
      Sends rows above keys (l :: child :: below) l' key

variable {rows : Rows} {l : FacetLevel} {row : Row}

theorem failsOnly_bucketAlone (hformat : ∃ f, DateFormat.ofText l.format = .ok f) (row : Row) :
    FailsOnly (l.KeyFault (row.key l)) (bucketAlone l row) := by
  refine (FacetLevel.failsOnly_keyText hformat _).bind fun text _ => ?_
  exact (FacetLevel.failsOnly_geometriesOf _ _).bind fun geometries _ => .ok _

theorem bucketAlone_of_misnames {cause : Cause} (h : l.Misnames (row.key l) cause) :
    bucketAlone l row = refuse cause := by
  rcases h.refused with htext | ⟨htext, hgeometries⟩
  · simp only [bucketAlone, htext]
    rfl
  · simp only [bucketAlone, htext, Outcome.ok_bind, hgeometries]
    rfl

theorem failsOnly_ofPurpose (rows : Rows) (purpose : Purpose) :
    FailsOnly (·.code = .backend) (rows.ofPurpose purpose) :=
  .orRefuse fun _ => rfl

theorem failsOnly_total (rows : Rows) (purpose : Purpose) :
    FailsOnly (·.code = .backend) (rows.total purpose) :=
  (failsOnly_ofPurpose rows purpose).bind fun _ _ => .ok _

/-- **What rows fail with.** -/
theorem failsOnly_buckets (rows : Rows) {levels : List FacetLevel}
    (hformat : ∀ l ∈ levels, ∃ f, DateFormat.ofText l.format = .ok f) (above : List FacetLevel)
    (keys : List Json) :
    FailsOnly (fun e => e.code = .backend ∨ ∃ l key cause,
      Sends rows above keys levels l key ∧ l.Misnames key cause ∧ e = .of cause)
      (buckets rows above keys levels) := by
  induction levels generalizing above keys with
  | nil => exact .ok []
  | cons l below ih =>
    refine FailsOnly.bind (fun e he => .inl (failsOnly_ofPurpose rows _ e he)) fun sent hsent => ?_
    refine FailsOnly.mapM fun row hrow => ?_
    obtain ⟨hrow, hkeys⟩ := List.mem_filter.mp hrow
    refine FailsOnly.bind ?_ fun bucket _ => ?_
    · intro e he
      rcases failsOnly_bucketAlone (hformat l List.mem_cons_self) row e he with hcode | hkey
      · exact .inl hcode
      · obtain ⟨cause, hcause, rfl⟩ := hkey
        exact .inr ⟨l, _, cause, .here hsent hrow hkeys, hcause, rfl⟩
    · cases below with
      | nil => exact .ok bucket
      | cons child rest =>
        refine FailsOnly.bind ?_ fun children _ => .ok _
        intro e he
        -- The fault comes from a key further inside, which is sent below this row.
        rcases ih (fun l' hl' => hformat l' (List.mem_cons_of_mem l hl')) _ _ e he with
          hcode | ⟨l', key, cause, hsends, hcause, rfl⟩
        · exact .inl hcode
        · exact .inr ⟨l', key, cause, .inside hsent hrow hkeys hsends, hcause, rfl⟩

/-- The rows of the first level fail with the first of them. -/
theorem buckets_of_misnames {below : List FacetLevel} {rest : List Row}
    (hsent : rows.ofPurpose (.level l.depth) = .ok (row :: rest)) {cause : Cause}
    (h : l.Misnames (row.key l) cause) : buckets rows [] [] (l :: below) = refuse cause := by
  have hall : (row :: rest).filter (fun row => ([].map row.key == [])) = row :: rest :=
    List.filter_eq_self.mpr fun _ _ => rfl
  unfold buckets
  rw [hsent, Outcome.ok_bind, hall, Outcome.mapM_cons, bucketAlone_of_misnames h]
  rfl

theorem failsOnly_assembleHits (c : Collection) (reverse : Bool) (rows : Rows) :
    FailsOnly (·.code = .backend) (assembleHits c reverse rows) :=
  (failsOnly_ofPurpose rows _).bind fun _ _ => (failsOnly_total rows _).bind fun _ _ => .ok _

theorem failsOnly_assembleComputation (field : String) (metric : ComputationMetric) (rows : Rows) :
    FailsOnly (·.code = .backend) (assembleComputation field metric rows) := by
  refine (failsOnly_total rows _).bind fun total _ => ?_
  refine (failsOnly_ofPurpose rows _).bind fun sent _ => ?_
  split
  · exact .ok _
  · split
    · exact .ok _
    · split <;> exact .ok _

end Sql

/-! ## Results of either backend -/

namespace Backend

/-- The native result sends a key at a level of the plan. -/
def Sends : (kind : BackendKind) → FacetPlan → (ofKind kind).Native → FacetLevel → Json → Prop
  | .search, plan, result, l, key => ∃ first container, plan.levels.head? = some first ∧
      (Json.member result "aggregations").get? first.name = some container ∧
      Search.Sends plan.levels container l key
  | .sql, plan, rows, l, key => Sql.Sends rows [] [] plan.levels l key

/-- The native result has the total that it is asked for, and the first bucket of its first level
has the key. -/
def SendsFirst : (kind : BackendKind) → (ofKind kind).Native → FacetLevel → Json → Prop
  | .search, result, l, key => ∃ container item rest,
      (Json.member result "aggregations").get? l.name = some container ∧
      (container.member "buckets").asList? = some (item :: rest) ∧ item.member "key" = key
  | .sql, rows, l, key => (∃ total, Sql.Rows.total rows .count = .ok total) ∧ ∃ row rest,
      Sql.Rows.ofPurpose rows (.level l.depth) = .ok (row :: rest) ∧ Sql.Row.key row l = key

variable {kind : BackendKind} {c : Collection} {plan : FacetPlan}

theorem failsOnly_assembleHits (kind : BackendKind) (c : Collection) (reverse : Bool)
    (native : (ofKind kind).Native) :
    FailsOnly (·.code = .backend) ((ofKind kind).assembleHits c reverse native) := by
  cases kind with
  | search => exact Search.failsOnly_assembleHits c reverse native
  | sql => exact Sql.failsOnly_assembleHits c reverse native

theorem failsOnly_assembleComputation (kind : BackendKind) (field : String)
    (metric : ComputationMetric) (native : (ofKind kind).Native) :
    FailsOnly (·.code = .backend) ((ofKind kind).assembleComputation field metric native) := by
  cases kind with
  | search => exact .ok _
  | sql => exact Sql.failsOnly_assembleComputation field metric native

theorem failsOnly_assembleFacets {geo : Bool} {specs : List FacetSpec}
    (hplan : FacetPlan.compile c geo specs = .ok plan) (native : (ofKind kind).Native) :
    FailsOnly (fun e => e.code = .backend ∨ ∃ l key cause,
      Sends kind plan native l key ∧ l.Misnames key cause ∧ e = .of cause)
      ((ofKind kind).assembleFacets c plan native) := by
  have hformat := FacetPlan.format_of_compile hplan
  have hlevels := (FacetPlan.levels_of_compile hplan).2
  -- A compiled plan has a level, so a missing one is no fault that can occur.
  have hfirst {kind : Fault → Prop} : FailsOnly kind (orRefuse .noFacet plan.levels.head?) :=
    .orRefuse fun hnone => absurd (List.head?_eq_none_iff.mp hnone) hlevels
  cases kind with
  | search =>
    refine hfirst.bind fun first hfirst => ?_
    refine (FailsOnly.orRefuse fun _ => .inl rfl).bind fun container hcontainer => ?_
    refine FailsOnly.bind ?_ fun children _ => .ok _
    intro e he
    rcases Search.failsOnly_buckets c hformat container e he with
      hcode | ⟨l, key, cause, hsends, hcause, rfl⟩
    · exact .inl hcode
    · exact .inr ⟨l, key, cause, ⟨first, container, Outcome.orRefuse_eq_ok.mp hfirst,
        Outcome.orRefuse_eq_ok.mp hcontainer, hsends⟩, hcause, rfl⟩
  | sql =>
    refine hfirst.bind fun first _ => ?_
    refine FailsOnly.bind (fun e he => .inl (Sql.failsOnly_total native _ e he)) fun total _ => ?_
    refine FailsOnly.bind ?_ fun children _ => .ok _
    exact Sql.failsOnly_buckets native hformat [] []

theorem assembleFacets_of_misnames {l : FacetLevel} (hfirst : plan.levels.head? = some l)
    {native : (ofKind kind).Native} {key : Json} (hsends : SendsFirst kind native l key)
    {cause : Cause} (h : l.Misnames key cause) :
    (ofKind kind).assembleFacets c plan native = refuse cause := by
  obtain ⟨below, hlevels⟩ : ∃ below, plan.levels = l :: below :=
    List.head?_eq_some_iff.mp hfirst
  cases kind with
  | search =>
    obtain ⟨container, item, rest, hcontainer, hitems, rfl⟩ := hsends
    show Search.assembleFacets c plan native = _
    unfold Search.assembleFacets
    rw [hfirst, orRefuse, Outcome.ok_bind, hcontainer, orRefuse, Outcome.ok_bind, hlevels,
      Search.buckets_of_misnames hitems h]
    rfl
  | sql =>
    obtain ⟨⟨total, htotal⟩, row, rest, hsent, rfl⟩ := hsends
    show Sql.assembleFacets plan native = _
    unfold Sql.assembleFacets
    rw [hfirst, orRefuse, Outcome.ok_bind, htotal, Outcome.ok_bind, hlevels,
      Sql.buckets_of_misnames hsent h]
    rfl

end Backend

/-! ## Accepted requests -/

namespace Service

variable {b : Backend} {s : Service b}

theorem cursor_of_explain {r : SearchRequest} {plan : b.Plan}
    (h : s.explainSearch r = .ok plan) : ∃ cursor, r.page.cursor = .ok cursor := by
  obtain ⟨compiled, h, -⟩ := Outcome.bind_eq_ok.mp h
  obtain ⟨_, -, h⟩ := Outcome.bind_eq_ok.mp h
  obtain ⟨cursor, hcursor, -⟩ := Outcome.bind_eq_ok.mp h
  exact ⟨cursor, hcursor⟩

theorem facetPlan_of_explain {r : FacetRequest} {plan : b.Plan}
    (h : s.explainFacets r = .ok plan) : ∃ levels, s.facetPlan r = .ok levels := by
  obtain ⟨compiled, h, -⟩ := Outcome.bind_eq_ok.mp h
  obtain ⟨levels, hlevels, -⟩ := Outcome.bind_eq_ok.mp h
  exact ⟨levels, hlevels⟩

end Service

/-- **A native result of an accepted request is refused as a fault of the backend, unless it sends a
key that names no bucket of its level.** Such a key is refused as an invalid parameter, and a result
whose first bucket has one is refused for it. -/
theorem assemble_faults {kind : BackendKind} (s : Service (Backend.ofKind kind)) {r : Request}
    {plan : (Backend.ofKind kind).Plan} (haccepted : s.explain r = .ok plan)
    (native : (Backend.ofKind kind).Native) :
    (∀ e, s.assemble r native = .error e → e.code = .backend ∨
      ∃ facets levels l key cause, r = .facets facets ∧ s.facetPlan facets = .ok levels ∧
        Backend.Sends kind levels native l key ∧ l.Misnames key cause ∧ e = .of cause ∧
        e.code = .invalidParameter) ∧
    ∀ facets levels l key cause, r = .facets facets → s.facetPlan facets = .ok levels →
      levels.levels.head? = some l → Backend.SendsFirst kind native l key →
      l.Misnames key cause → s.assemble r native = refuse cause := by
  constructor
  · intro e he
    cases r with
    | search search =>
      obtain ⟨cursor, hcursor⟩ := Service.cursor_of_explain haccepted
      have hhits : FailsOnly (·.code = .backend) (s.assembleSearch search native) := by
        unfold Service.assembleSearch
        rw [hcursor, Outcome.ok_bind]
        exact Backend.failsOnly_assembleHits kind _ _ native
      exact .inl (hhits.map Hits.toJson e he)
    | facets facets =>
      obtain ⟨levels, hlevels⟩ := Service.facetPlan_of_explain haccepted
      have htree := (Backend.failsOnly_assembleFacets (c := s.collection) hlevels native).map
        fun tree => if facets.geo then tree.featureCollection else tree.toJson
      have hassemble : s.assemble (.facets facets) native =
          ((Backend.ofKind kind).assembleFacets s.collection levels native).map
            fun tree => if facets.geo then tree.featureCollection else tree.toJson := by
        simp only [Service.assemble, Service.assembleFacets, hlevels, Outcome.ok_bind]
      -- Only facets have keys that are converted, so only they have the second kind of fault.
      rcases htree e (hassemble ▸ he) with hcode | ⟨l, key, cause, hsends, hcause, rfl⟩
      · exact .inl hcode
      · exact .inr ⟨facets, levels, l, key, cause, rfl, hlevels, hsends, hcause, rfl,
          hcause.code_eq⟩
    | compute compute =>
      exact .inl ((Backend.failsOnly_assembleComputation kind _ _ native).map _ e he)
  · rintro facets levels l key cause rfl hlevels hfirst hsends hcause
    simp only [Service.assemble, Service.assembleFacets, hlevels, Outcome.ok_bind,
      Backend.assembleFacets_of_misnames hfirst hsends hcause]
    rfl

/-! ### Nests by cell

The rows name a cell with a character that is no digit of a geohash. -/

def nests : Collection :=
  ⟨"nests", "nests", "id", "shape", "place", "seen", "epoch_millis", [],
    [("id", .integer), ("shape", .geoShape), ("place", .geoPoint), ("seen", .date)]⟩

def nestsByCell : FacetRequest :=
  ⟨⟨[], [], none⟩, [{ (default : FacetSpec) with
    type := .geohash, interval := some "4", aggregatedGeometries := [.cell] }], false⟩

def nestRows : Sql.Rows :=
  [("count", [[("totalnb", .int 1)]]), ("level_0", [[("count", .int 1), ("key_0", .text "u0!t")]])]

theorem assemble_faults_nests : ∃ (s : Service (Backend.ofKind .sql)) (plan : Sql.Plan),
    s.collection = nests ∧ s.explain (.facets nestsByCell) = .ok plan ∧
    s.assemble (.facets nestsByCell) nestRows = refuse (.malformedGeohash "u0!t") ∧
    (Cause.malformedGeohash "u0!t").code = .invalidParameter := by
  obtain ⟨plan, hplan, -⟩ := Outcome.exists_of_any
    (o := (⟨nests, 100⟩ : Service Sql.backend).explain (.facets nestsByCell))
    (p := fun _ => true) (by decide +kernel)
  obtain ⟨levels, hlevels, hfirst⟩ := Outcome.exists_of_any
    (o := (⟨nests, 100⟩ : Service Sql.backend).facetPlan nestsByCell)
    (p := fun levels => levels.levels.head?.any fun l =>
      l.type = .geohash && !l.aggregatedGeometries.isEmpty && l.depth = 0) (by decide +kernel)
  obtain ⟨l, hfirst, hl⟩ := (Option.any_eq_true _ _).mp hfirst
  obtain ⟨hl, hdepth⟩ := Bool.and_eq_true_iff.mp hl
  obtain ⟨htype, hasked⟩ := Bool.and_eq_true_iff.mp hl
  replace htype : l.type = .geohash := of_decide_eq_true htype
  have hcell : (Geohash.cell? "u0!t" : Option (BoundingBox Float)) = none := by
    have hbits : Geohash.bits? "u0!t".toList = none := by decide +kernel
    rw [Geohash.cell?, hbits]
    rfl
  have hmisnames : l.Misnames (.text "u0!t") (.malformedGeohash "u0!t") :=
    .geohash htype (by simpa using hasked) hcell
  have hkey : Sql.Row.key [("count", .int 1), ("key_0", .text "u0!t")] l = .text "u0!t" := by
    unfold Sql.Row.key
    rw [of_decide_eq_true hdepth]
    cases hkind : l.kind <;> rw [FacetLevel.type, hkind, FacetKind.type] at htype <;> cases htype
    rfl
  have hsends : Backend.SendsFirst .sql nestRows l (.text "u0!t") := by
    refine ⟨⟨1, rfl⟩, _, [], ?_, hkey⟩
    rw [of_decide_eq_true hdepth]
    rfl
  let s : Service (Backend.ofKind .sql) := ⟨nests, 100⟩
  have hrefused := (assemble_faults s hplan nestRows).2 nestsByCell levels l _ _ rfl hlevels
    hfirst hsends hmisnames
  exact ⟨s, plan, rfl, hplan, hrefused, rfl⟩

end GeoFacet
