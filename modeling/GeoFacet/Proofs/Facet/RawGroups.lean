import GeoFacet.Facet.Plan
import GeoFacet.Proofs.Outcome
import GeoFacet.Proofs.Text.Split
import Mathlib.Data.List.Nodup
import Mathlib.Data.List.Induction

/-!
# Groups of raw geometries

A level may ask for the geometries at several paths, each with the sort that picks the document to
take it from. Requests with one sort form one group, so that their document is fetched once. Groups
come in the order in which their sorts are first asked for, and so do the paths of each group; a
request that comes again changes nothing. A request either opens a group (`Gathers.concat`) or adds
its path to one (`Gathers.addPath`), hence all of them are gathered (`gathers_groupRaw`). Together the
groups hold the requests of the level, each once (`Gathers.perm_requests`).
-/

namespace GeoFacet

/-! ## Lists without repetitions -/

section Repetitions

variable {α : Type} [BEq α] [LawfulBEq α]

theorem eraseDups_concat_of_mem {as : List α} {a : α} (h : a ∈ as) :
    (as ++ [a]).eraseDups = as.eraseDups := by
  simp [List.eraseDups_append, List.removeAll, h]

theorem eraseDups_concat_of_notMem {as : List α} {a : α} (h : a ∉ as) :
    (as ++ [a]).eraseDups = as.eraseDups ++ [a] := by
  simp [List.eraseDups_append, List.removeAll, List.eraseDups_cons, h]

theorem nodup_eraseDups (as : List α) : as.eraseDups.Nodup := by
  induction as using List.reverseRecOn with
  | nil => exact List.nodup_nil
  | append_singleton as a ih =>
    by_cases h : a ∈ as
    · rwa [eraseDups_concat_of_mem h]
    · rw [eraseDups_concat_of_notMem h, ← List.concat_eq_append]
      exact ih.concat (by rwa [List.mem_eraseDups])

end Repetitions

/-! ## Requests -/

/-- What is asked for: a path, and the sort that picks the document. A blank sort is none. -/
def RawGeometrySpec.request (r : RawGeometrySpec) : String × Option String :=
  (Text.trim r.path, (r.sort.filter fun s => !Text.isBlank s).map Text.trim)

/-- The raw geometries that a level asks for, in their order. -/
def FacetSpec.rawRequests (s : FacetSpec) : List (String × Option String) :=
  s.rawGeometries.map RawGeometrySpec.request

theorem FacetSpec.rawSort_eq (r : RawGeometrySpec) : rawSort r = r.request.2 := by
  cases hsort : r.sort with
  | none => simp [rawSort, RawGeometrySpec.request, hsort]
  | some s =>
    by_cases hblank : Text.isBlank s = true
    · simp [rawSort, RawGeometrySpec.request, hsort, Option.filter_some, hblank,
        Text.trim_of_isBlank hblank]
    · have htrim : Text.trim s ≠ "" := fun h => hblank (Text.trim_eq_empty_iff.mp h)
      simp [rawSort, RawGeometrySpec.request, hsort, Option.filter_some, hblank, htrim]

/-! ## Groups -/

namespace RawGeometryGroup

/-- The requests that a group answers. -/
def requests (g : RawGeometryGroup) : List (String × Option String) :=
  g.paths.map fun path => (path, g.sort)

/-- The keys of a group are those of its sort, and none without a sort. -/
structure SortedByKeys (g : RawGeometryGroup) : Prop where
  parsed : ∀ s, g.sort = some s → Sorting.parse s = .ok g.sortKeys
  unsorted : g.sort = none → g.sortKeys = []

/-- Groups gather requests: one group for each sort, with the paths asked for with this sort. Groups
are numbered, and sorts and paths come in the order in which they are first asked for. -/
structure Gathers (groups : List RawGeometryGroup) (asked : List (String × Option String)) :
    Prop where
  names : groups.map name = (List.range groups.length).map fun i => "raw_geometries_" ++ toString i
  sorts : groups.map sort = (asked.map Prod.snd).eraseDups
  paths : ∀ g ∈ groups, g.paths = ((asked.filter (·.2 = g.sort)).map Prod.fst).eraseDups
  keys : ∀ g ∈ groups, g.SortedByKeys

namespace Gathers

variable {groups : List RawGeometryGroup} {asked : List (String × Option String)}

theorem nil : Gathers [] [] := ⟨rfl, rfl, by simp, by simp⟩

theorem mem_sorts_iff (h : Gathers groups asked) (sort : Option String) :
    sort ∈ groups.map RawGeometryGroup.sort ↔ sort ∈ asked.map Prod.snd := by
  rw [h.sorts, List.mem_eraseDups]

theorem nodup_sorts (h : Gathers groups asked) : (groups.map RawGeometryGroup.sort).Nodup := by
  rw [h.sorts]
  exact nodup_eraseDups _

/-- A path asked for with the sort of a group is one of the group. -/
theorem mem_paths_iff (h : Gathers groups asked) {g : RawGeometryGroup} (hg : g ∈ groups)
    (path : String) : path ∈ g.paths ↔ (path, g.sort) ∈ asked := by
  rw [h.paths g hg, List.mem_eraseDups]
  simp

theorem nodup_paths (h : Gathers groups asked) {g : RawGeometryGroup} (hg : g ∈ groups) :
    g.paths.Nodup := by
  rw [h.paths g hg]
  exact nodup_eraseDups _

/-- **Together the groups hold every request once.** -/
theorem perm_requests (h : Gathers groups asked) :
    (groups.flatMap RawGeometryGroup.requests).Perm asked.eraseDups := by
  have hnodup : (groups.flatMap RawGeometryGroup.requests).Nodup := by
    rw [List.nodup_flatMap]
    constructor
    · intro g hg
      exact (h.nodup_paths hg).map fun a b hab => (Prod.mk.inj hab).1
    · refine (List.pairwise_map.mp h.nodup_sorts).imp ?_
      intro g g' hsorts request hg hg'
      obtain ⟨path, -, rfl⟩ := List.mem_map.mp hg
      obtain ⟨path', -, heq⟩ := List.mem_map.mp hg'
      exact hsorts (Prod.mk.inj heq).2.symm
  -- Neither side repeats a request, so it is enough that both hold the same ones.
  refine (List.perm_ext_iff_of_nodup hnodup (nodup_eraseDups asked)).mpr ?_
  rintro ⟨path, sort⟩
  rw [List.mem_eraseDups, List.mem_flatMap]
  constructor
  · rintro ⟨g, hg, hrequest⟩
    obtain ⟨path', hpath, heq⟩ := List.mem_map.mp hrequest
    cases heq
    exact (h.mem_paths_iff hg path).mp hpath
  · intro hasked
    have hsort : sort ∈ groups.map RawGeometryGroup.sort :=
      (h.mem_sorts_iff sort).mpr (List.mem_map.mpr ⟨_, hasked, rfl⟩)
    obtain ⟨g, hg, rfl⟩ := List.mem_map.mp hsort
    exact ⟨g, hg, List.mem_map.mpr ⟨path, (h.mem_paths_iff hg path).mpr hasked, rfl⟩⟩

/-- A request with a new sort opens a group. -/
theorem concat (h : Gathers groups asked) {sort : Option String}
    (hnew : sort ∉ groups.map RawGeometryGroup.sort) (path : String) {keys : List SortKey}
    (hparsed : ∀ s, sort = some s → Sorting.parse s = .ok keys)
    (hunsorted : sort = none → keys = []) :
    Gathers (groups ++ [⟨"raw_geometries_" ++ toString groups.length, sort, keys, [path]⟩])
      (asked ++ [(path, sort)]) where
  names := by simp [h.names, List.range_succ]
  sorts := by
    have hasked : sort ∉ asked.map Prod.snd := fun hmem => hnew ((h.mem_sorts_iff sort).mpr hmem)
    rw [List.map_append, List.map_append, h.sorts]
    exact (eraseDups_concat_of_notMem hasked).symm
  paths := by
    intro g hg
    rcases List.mem_append.mp hg with hg | hg
    · have hne : sort ≠ g.sort := by
        intro heq
        exact hnew (heq ▸ List.mem_map_of_mem hg)
      simp [List.filter_append, hne, ← h.paths g hg]
    · -- Nothing was asked for with this sort before, so its group has the new path only.
      have hnone : asked.filter (fun r => r.2 = sort) = [] := by
        rw [List.filter_eq_nil_iff]
        intro request hrequest hsort
        apply hnew
        rw [h.mem_sorts_iff, ← of_decide_eq_true hsort]
        exact List.mem_map_of_mem hrequest
      rw [List.mem_singleton.mp hg]
      simp [List.filter_append, hnone, List.eraseDups_cons]
  keys := by
    intro g hg
    rcases List.mem_append.mp hg with hg | hg
    · exact h.keys g hg
    · rw [List.mem_singleton.mp hg]
      exact ⟨hparsed, hunsorted⟩

end Gathers

/-- The group with a further path. -/
def withPath (g : RawGeometryGroup) (path : String) : RawGeometryGroup :=
  { g with paths := if path ∈ g.paths then g.paths else g.paths ++ [path] }

theorem withPath_eq (g : RawGeometryGroup) (path : String) : g.withPath path =
    if g.paths.contains path then g else { g with paths := g.paths ++ [path] } := by
  by_cases h : path ∈ g.paths
  · simp [withPath, h]
  · simp [withPath, h]

theorem paths_withPath {g : RawGeometryGroup} {paths : List String} (h : g.paths = paths.eraseDups)
    (path : String) : (g.withPath path).paths = (paths ++ [path]).eraseDups := by
  by_cases hpath : path ∈ paths
  · simp [withPath, h, hpath, eraseDups_concat_of_mem hpath]
  · simp [withPath, h, hpath, eraseDups_concat_of_notMem hpath]

/-- If the sorts differ, a path is added to the groups that have its sort. -/
theorem addPath_eq_map {groups : List RawGeometryGroup}
    (h : (groups.map RawGeometryGroup.sort).Nodup) (sort : Option String) (path : String) :
    FacetSpec.addPath sort path groups =
      groups.map fun g => if g.sort = sort then g.withPath path else g := by
  induction groups with
  | nil => rfl
  | cons g rest ih =>
    obtain ⟨hg, hrest⟩ := List.nodup_cons.mp h
    rw [FacetSpec.addPath, List.map_cons]
    by_cases hsort : g.sort = sort
    · have hothers : rest.map (fun g => if g.sort = sort then g.withPath path else g) = rest := by
        refine (List.map_congr_left ?_).trans (List.map_id rest)
        intro g' hg'
        rw [if_neg, id]
        intro hsort'
        exact hg (hsort.trans hsort'.symm ▸ List.mem_map_of_mem hg')
      rw [if_pos hsort, if_pos hsort, hothers, withPath_eq]
    · rw [if_neg hsort, if_neg hsort, ih hrest]

/-- What a further path does not change is the same of all groups. -/
theorem map_addPath {groups : List RawGeometryGroup}
    (h : (groups.map RawGeometryGroup.sort).Nodup) (sort : Option String) (path : String)
    {α : Type} {f : RawGeometryGroup → α} (hf : ∀ g, f (g.withPath path) = f g) :
    (FacetSpec.addPath sort path groups).map f = groups.map f := by
  rw [addPath_eq_map h, List.map_map]
  refine List.map_congr_left ?_
  intro g _
  by_cases hsort : g.sort = sort
  · simp [hsort, hf]
  · simp [hsort]

namespace Gathers

variable {groups : List RawGeometryGroup} {asked : List (String × Option String)}

/-- A request with the sort of a group adds its path to this group. -/
theorem addPath (h : Gathers groups asked) {sort : Option String}
    (hold : sort ∈ groups.map RawGeometryGroup.sort) (path : String) :
    Gathers (FacetSpec.addPath sort path groups) (asked ++ [(path, sort)]) where
  names := by
    rw [map_addPath h.nodup_sorts sort path fun _ => rfl, h.names, addPath_eq_map h.nodup_sorts,
      List.length_map]
  sorts := by
    rw [map_addPath h.nodup_sorts sort path fun _ => rfl, h.sorts, List.map_append]
    exact (eraseDups_concat_of_mem ((h.mem_sorts_iff sort).mp hold)).symm
  paths := by
    intro g' hg'
    rw [addPath_eq_map h.nodup_sorts] at hg'
    obtain ⟨g, hg, rfl⟩ := List.mem_map.mp hg'
    by_cases hsort : g.sort = sort
    · have hkept : (g.withPath path).sort = g.sort := rfl
      rw [if_pos hsort, hkept, paths_withPath (h.paths g hg)]
      simp [List.filter_append, hsort]
    · have hne : sort ≠ g.sort := Ne.symm hsort
      rw [if_neg hsort, h.paths g hg]
      simp [List.filter_append, hne]
  keys := by
    intro g' hg'
    rw [addPath_eq_map h.nodup_sorts] at hg'
    obtain ⟨g, hg, rfl⟩ := List.mem_map.mp hg'
    by_cases hsort : g.sort = sort
    · rw [if_pos hsort]
      exact ⟨(h.keys g hg).parsed, (h.keys g hg).unsorted⟩
    · rw [if_neg hsort]
      exact h.keys g hg

end Gathers

end RawGeometryGroup

namespace FacetSpec

open RawGeometryGroup

/-- **Groups gather the requests of their level.** -/
theorem gathers_groupRaw {c : Collection} {specs : List RawGeometrySpec}
    {groups result : List RawGeometryGroup} {asked : List (String × Option String)}
    (hgroups : Gathers groups asked) (h : groupRaw c groups specs = .ok result) :
    Gathers result (asked ++ specs.map RawGeometrySpec.request) := by
  induction specs generalizing groups asked with
  | nil =>
    cases h
    simpa using hgroups
  | cons r rest ih =>
    have hrequest : asked ++ (r :: rest).map RawGeometrySpec.request =
        (asked ++ [(Text.trim r.path, rawSort r)]) ++ rest.map RawGeometrySpec.request := by
      rw [rawSort_eq]
      simp [RawGeometrySpec.request]
    rw [hrequest]
    obtain ⟨type, -, h⟩ := Outcome.bind_eq_ok.mp h
    split at h
    · cases h
    · -- The sort is that of a group already, or it opens a new one.
      dsimp only at h
      split at h
      · rename_i hold
        exact ih (hgroups.addPath (by simpa using hold) _) h
      · rename_i hnew
        have hnew : rawSort r ∉ groups.map RawGeometryGroup.sort := by simpa using hnew
        split at h
        · rename_i s hsort
          obtain ⟨keys, hkeys, h⟩ := Outcome.bind_eq_ok.mp h
          refine ih (hgroups.concat hnew _ ?_ ?_) h
          · intro s' hs'
            cases hsort.symm.trans hs'
            exact hkeys
          · intro hnone
            cases hsort.symm.trans hnone
        · rename_i hsort
          obtain ⟨keys, hkeys, h⟩ := Outcome.bind_eq_ok.mp h
          refine ih (hgroups.concat hnew _ ?_ ?_) h
          · intro s' hs'
            cases hsort.symm.trans hs'
          · intro _
            cases hkeys
            rfl

end FacetSpec

end GeoFacet
