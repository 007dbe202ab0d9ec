import GeoFacet.Proofs.Facet.Metrics
import GeoFacet.Proofs.Facet.WellFormed
import GeoFacet.Proofs.Sql.BucketBounds

/-!
# The widths of date buckets

A level of dates is formed by one interval, which the two backends write each in its own way. A unit
of the calendar counts once, and each backend has a name for it. A fixed unit makes a length in
milliseconds: a search writes it as a number of units and reads the length back from that text, and
a statement computes it as a signed 64-bit number. The number of units is below `2^32`, so the
length stays within the range, and the keys of both backends are the multiples of this length.

Main statement: `dateLevel_of_compile`.
-/

namespace GeoFacet

/-! ## Units of the two query languages -/

namespace Search

/-- The milliseconds of a fixed unit of time, by its abbreviation. -/
def fixedUnit? : List Char → Option Nat
  | ['m', 's'] => some 1
  | ['s'] => some 1000
  | ['m'] => some (60 * 1000)
  | ['h'] => some (60 * 60 * 1000)
  | ['d'] => some (24 * 60 * 60 * 1000)
  | _ => none

/-- The milliseconds of a length of time: a number in digits and the abbreviation of its unit. -/
def length? (text : String) : Option Nat :=
  match digitsValue? (text.toList.takeWhile Char.isDigit),
    fixedUnit? (text.toList.dropWhile Char.isDigit) with
  | some count, some unit => some (count * unit)
  | _, _ => none

/-- The unit of the calendar that a text stands for. It counts once. -/
def calendarUnit? : String → Option DateUnit
  | "1m" => some .minute
  | "1h" => some .hour
  | "1d" => some .day
  | "1w" => some .week
  | "1M" => some .month
  | "1q" => some .quarter
  | "1y" => some .year
  | _ => none

end Search

/-- The unit to which a statement cuts off an instant, by its name. -/
def Sql.truncationUnit? : String → Option DateUnit
  | "second" => some .second
  | "minute" => some .minute
  | "hour" => some .hour
  | "day" => some .day
  | "week" => some .week
  | "month" => some .month
  | "quarter" => some .quarter
  | "year" => some .year
  | _ => none

theorem Search.length?_toString (n : Nat) {suffix : String} {unit : Nat}
    (hsuffix : ∀ c ∈ suffix.toList, c.isDigit = false)
    (hunit : fixedUnit? suffix.toList = some unit) :
    length? (toString n ++ suffix) = some (n * unit) := by
  have htext : (toString n ++ suffix).toList = Nat.toDigits 10 n ++ suffix.toList := by
    rw [String.toList_append]
    exact congrArg (· ++ suffix.toList) String.toList_ofList
  have hnone : suffix.toList.takeWhile Char.isDigit = [] ∧
      suffix.toList.dropWhile Char.isDigit = suffix.toList := by
    cases hlist : suffix.toList with
    | nil => exact ⟨rfl, rfl⟩
    | cons c rest => simp [hsuffix c (hlist ▸ List.mem_cons_self)]
  have hdigits : ∀ c ∈ Nat.toDigits 10 n, c.isDigit = true := fun _ =>
    Nat.isDigit_of_mem_toDigits (by decide) (by decide)
  rw [length?, htext, List.takeWhile_append_of_pos hdigits, List.dropWhile_append_of_pos hdigits,
    hnone.1, hnone.2, List.append_nil, digitsValue?_toDigits, hunit]

namespace DateUnit

variable {unit : DateUnit} {millis : Nat}

/-- A fixed unit is written with its abbreviation. -/
theorem length?_suffix (h : unit.fixedMillis? = some millis) (n : Nat) :
    Search.length? (toString n ++ unit.suffix) = some (n * millis) := by
  cases unit <;> cases h <;>
    exact Search.length?_toString n (by simp [suffix]) (by decide)

theorem calendarUnit?_suffix (h : unit.isCalendar = true) :
    Search.calendarUnit? ("1" ++ unit.suffix) = some unit := by
  cases unit <;> first | rfl | cases h

theorem truncationUnit?_name (unit : DateUnit) : Sql.truncationUnit? unit.name = some unit := by
  cases unit <;> rfl

theorem fixedMillis?_bounds (h : unit.fixedMillis? = some millis) :
    1000 ≤ millis ∧ millis ≤ 24 * 60 * 60 * 1000 := by
  cases unit <;> cases h <;> decide

end DateUnit

/-! ## Intervals of dates -/

theorem Interval.asNat?_lt {i : Interval} {n : Nat} (h : i.asNat? = some n) : n < UInt32.size := by
  rw [asNat?] at h
  split at h
  · cases h
    exact UInt32.toNat_lt_size _
  · cases h

/-- What an interval of dates says: a whole number of units. -/
def Interval.Counts (text : String) (unit : DateUnit) (count : Nat) : Prop :=
  ∃ i, parse text = .ok i ∧ i.unit = some unit ∧ i.asNat? = some count

theorem FacetSpec.counts_of_dateKind {interval : String} {kind : FacetKind}
    (h : dateKind interval = .ok kind) :
    ∃ unit count, kind = .dateHistogram unit count ∧ Interval.Counts interval unit count := by
  obtain ⟨parsed, hparsed, h⟩ := Outcome.bind_eq_ok.mp h
  obtain ⟨unit, hunit, h⟩ := Outcome.bind_eq_ok.mp h
  obtain ⟨count, hcount, h⟩ := Outcome.bind_eq_ok.mp h
  split at h
  · cases h
  · cases h
    exact ⟨unit, count, rfl, parsed, hparsed, Outcome.orRefuse_eq_ok.mp hunit,
      Outcome.orRefuse_eq_ok.mp hcount⟩

/-- A level of dates is formed by the interval of its specification. -/
theorem FacetSpec.counts_of_resolveKind {s : FacetSpec} (htype : s.type = .dateHistogram)
    {kind : FacetKind} (h : resolveKind s = .ok kind) : ∃ text unit count,
      s.interval = some text ∧ kind = .dateHistogram unit count ∧
        Interval.Counts (Text.trim text) unit count := by
  rw [resolveKind, htype] at h
  dsimp only at h
  split at h
  · cases h
  · rename_i text htext
    obtain ⟨unit, count, hkind, hcounts⟩ := counts_of_dateKind h
    exact ⟨text, unit, count, (Option.filter_eq_some_iff.mp htext).1, hkind, hcounts⟩

/-! ## What both backends ask for -/

/-- A signed 64-bit product of a length and a number of units is exact. -/
theorem toInt_mul_ofNat {millis count : Nat} (hmillis : millis ≤ 24 * 60 * 60 * 1000)
    (hcount : count < UInt32.size) :
    (Int64.ofNat millis * Int64.ofNat count).toInt = (millis * count : Nat) ∧
      millis * count ≤ Int64.maxValue.toInt := by
  have hproduct : millis * count ≤ 24 * 60 * 60 * 1000 * UInt32.size :=
    Nat.mul_le_mul hmillis hcount.le
  have hmax : Int64.maxValue.toInt = 2 ^ 63 - 1 := rfl
  have hsize : UInt32.size = 2 ^ 32 := rfl
  rw [hsize] at hcount hproduct
  have hexact {n : Nat} (h : n < 2 ^ 63) : (Int64.ofNat n).toInt = n := Int64.toInt_ofNat_of_lt h
  refine ⟨?_, by rw [hmax]; omega⟩
  rw [Int64.toInt_mul, hexact (by omega), hexact (by omega), ← Nat.cast_mul]
  exact Int.bmod_eq_of_le (by omega) (by omega)

/-- Both backends form the buckets of a level by one unit of the calendar. -/
structure FacetLevel.ByCalendar (l : FacetLevel) (unit : DateUnit) : Prop where
  search : (Search.Aggregation.bodyJson l).get? "fixed_interval" = none ∧
    ∃ text, (Search.Aggregation.bodyJson l).get? "calendar_interval" = some (.text text) ∧
      Search.calendarUnit? text = some unit
  statement : ∃ name, Sql.Token.textOf (Sql.keyColumn l).value.tokens =
      "CAST(EXTRACT(EPOCH FROM DATE_TRUNC('" ++ name ++ "', TO_TIMESTAMP(" ++ Sql.quote l.field ++
        " / 1000.0) AT TIME ZONE 'UTC')) * 1000 AS BIGINT)" ∧
    Sql.truncationUnit? name = some unit

/-- Both backends form the buckets of a level by one length in milliseconds. The key of an instant
is the length times the quotient by it, rounded down. -/
structure FacetLevel.ByLength (l : FacetLevel) (width : Nat) : Prop where
  search : (Search.Aggregation.bodyJson l).get? "calendar_interval" = none ∧
    ∃ text, (Search.Aggregation.bodyJson l).get? "fixed_interval" = some (.text text) ∧
      Search.length? text = some width
  statement : Sql.Token.textOf (Sql.keyColumn l).value.tokens =
    "CAST(FLOOR(" ++ Sql.quote l.field ++ " / " ++ toString width ++ ".0) * " ++ toString width ++
      " AS BIGINT)"
  key : ∀ (row : String → Option Sql.NumericValue) (v : Int), row l.field = some (.whole v) →
    (Sql.keyColumn l).value.value? row = some (.whole (width * ⌊(v : ℚ) / width⌋))

namespace FacetLevel

variable {l : FacetLevel} {unit : DateUnit} {count millis : Nat}

/-- The member of a search body that holds the interval. -/
theorem get?_interval (hkind : l.kind = .dateHistogram unit count) (name : String)
    (hname : name = "calendar_interval" ∨ name = "fixed_interval") :
    (Search.Aggregation.bodyJson l).get? name =
      if name = (if unit.isCalendar then "calendar_interval" else "fixed_interval") then
        some (.text (Search.Aggregation.intervalText unit count)) else none := by
  rw [Search.Aggregation.bodyJson, hkind, Json.get?_ofPresent]
  · obtain rfl | rfl := hname <;> cases hcalendar : unit.isCalendar <;>
      simp [Search.Aggregation.kindMembers, hcalendar, Json.lookup_cons_ite]
  · cases hcalendar : unit.isCalendar <;> simp [Search.Aggregation.kindMembers, hcalendar]

theorem byCalendar (hkind : l.kind = .dateHistogram unit count) (hunit : unit.isCalendar = true) :
    l.ByCalendar unit where
  search := by
    rw [get?_interval hkind _ (.inl rfl), get?_interval hkind _ (.inr rfl), hunit,
      Search.Aggregation.intervalText, hunit]
    exact ⟨rfl, _, rfl, unit.calendarUnit?_suffix hunit⟩
  statement := by
    refine ⟨unit.name, ?_, unit.truncationUnit?_name⟩
    rw [Sql.keyColumn, hkind, Sql.Expr.bucketKey, Option.isNone_iff_eq_none.mp hunit]
    have hthousand : Nat.repr 1000 = "1000" := by decide
    simp [Sql.Expr.tokens, Sql.Expr.tokensList, Sql.Token.between, Sql.Token.join, Sql.Token.textOf,
      Sql.Token.text, Sql.Arithmetic.symbol, hthousand, ← String.toList_inj]

theorem byLength (hkind : l.kind = .dateHistogram unit count)
    (hunit : unit.fixedMillis? = some millis) (hcount : 1 ≤ count) :
    l.ByLength (millis * count) where
  search := by
    have hcalendar : unit.isCalendar = false := by
      rw [DateUnit.isCalendar, hunit, Option.isNone_some]
    rw [get?_interval hkind _ (.inl rfl), get?_interval hkind _ (.inr rfl), hcalendar,
      Search.Aggregation.intervalText, hcalendar, Nat.mul_comm]
    exact ⟨rfl, _, rfl, DateUnit.length?_suffix hunit count⟩
  statement := by
    rw [Sql.keyColumn, hkind, Sql.Expr.bucketKey, hunit]
    simp [Sql.Expr.tokens, Sql.Expr.tokensList, Sql.Token.between, Sql.Token.join, Sql.Token.textOf,
      Sql.Token.text, Sql.Arithmetic.symbol, Sql.Expr.floorTo, ← String.toList_inj]
  key := by
    intro row v hv
    obtain ⟨key, hkey, hbound⟩ := Sql.dateKey_isLowerBound hkind hunit hcount hv
    have hwidth : 0 < millis * count :=
      Nat.mul_pos (by have := DateUnit.fixedMillis?_bounds hunit; omega) hcount
    rw [hkey, hbound.unique (isLowerBound_floor hwidth v), Rat.floor_intCast_div_natCast,
      Int.mul_comm]

end FacetLevel

/-- **Both backends cut time into the same buckets.** A level of dates has the interval that its
specification gives, a whole number of units. A unit of the calendar counts once, and both backends
name this unit. A fixed unit makes a length in milliseconds, and their product, computed with signed
64-bit numbers, is this length. It is at least a second. The interval of a search reads back as the
length, and in a statement the key of an instant, before the epoch or after it, is the length times
the quotient by it, rounded down. -/
theorem FacetPlan.dateLevel_of_compile {c : Collection} {geo : Bool} {specs : List FacetSpec}
    {plan : FacetPlan} (h : compile c geo specs = .ok plan) {depth : Nat} {s : FacetSpec}
    (hs : specs[depth]? = some s) (htype : s.type = .dateHistogram) :
    ∃ (l : FacetLevel) (text : String) (unit : DateUnit) (count : Nat),
      plan.levels[depth]? = some l ∧ l.kind = .dateHistogram unit count ∧
      s.interval = some text ∧ Interval.Counts (Text.trim text) unit count ∧
      (unit.isCalendar = true ∧ count = 1 ∧ l.ByCalendar unit ∨
        ∃ millis width : Nat, unit.fixedMillis? = some millis ∧ width = millis * count ∧
          (Int64.ofNat millis * Int64.ofNat count).toInt = millis * count ∧
          width ≤ Int64.maxValue.toInt ∧ 1000 ≤ width ∧ l.ByLength width) := by
  obtain ⟨l, hl, hlevel⟩ := FacetSpec.exists_level (levels_of_compile h).1 hs
  obtain ⟨ms, hassembled⟩ := FacetSpec.exists_assembled hlevel
  obtain ⟨text, unit, count, htext, hkind, hcounts⟩ :=
    FacetSpec.counts_of_resolveKind htype hassembled.kind
  have hwidth := hassembled.wellFormed.width
  rw [hkind] at hwidth
  obtain ⟨hpos, hcalendar⟩ := hwidth
  refine ⟨l, text, unit, count, hl, hkind, htext, hcounts, ?_⟩
  cases hunit : unit.fixedMillis? with
  | none =>
    have hunit : unit.isCalendar = true := Option.isNone_iff_eq_none.mpr hunit
    exact .inl ⟨hunit, hcalendar hunit, FacetLevel.byCalendar hkind hunit⟩
  | some millis =>
    obtain ⟨_, -, -, hcount⟩ := hcounts
    -- A unit is a day at most and a count has 32 bits, so their product does not overflow.
    obtain ⟨hlower, hupper⟩ := DateUnit.fixedMillis?_bounds hunit
    obtain ⟨hexact, hmax⟩ := toInt_mul_ofNat hupper (Interval.asNat?_lt hcount)
    refine .inr ⟨millis, _, rfl, rfl, hexact.trans (Nat.cast_mul _ _), hmax, ?_,
      FacetLevel.byLength hkind hunit hpos⟩
    calc 1000 ≤ millis := hlower
      _ ≤ millis * count := Nat.le_mul_of_pos_right _ hpos

/-! ### Quarters of a day -/

/-- The surveys of every six hours. -/
def byQuarterDay : FacetSpec :=
  { (default : FacetSpec) with type := .dateHistogram, interval := some " 6 hours" }

theorem dateLevel_byQuarterDay : ∃ (plan : FacetPlan) (l : FacetLevel),
    FacetPlan.compile surveys false [byQuarterDay] = .ok plan ∧ plan.levels[0]? = some l ∧
      l.kind = .dateHistogram .hour 6 ∧ l.ByLength 21600000 ∧
      (Sql.keyColumn l).value.value? (fun _ => some (.whole (-1))) =
        some (.whole (-21600000)) := by
  obtain ⟨plan, first, hplan, hfirst, hsix⟩ : ∃ (plan : FacetPlan) (l : FacetLevel),
      FacetPlan.compile surveys false [byQuarterDay] = .ok plan ∧ plan.levels[0]? = some l ∧
        l.kind = .dateHistogram .hour 6 := ⟨_, _, rfl, rfl, rfl⟩
  have hs : [byQuarterDay][0]? = some byQuarterDay := rfl
  obtain ⟨l, -, unit, count, hl, hkind, -, -, hcuts⟩ :=
    FacetPlan.dateLevel_of_compile hplan hs rfl
  obtain rfl := Option.some.inj (hfirst.symm.trans hl)
  cases hsix.symm.trans hkind
  obtain ⟨hcalendar, -, -⟩ | ⟨millis, width, hmillis, rfl, -, -, -, hlength⟩ := hcuts
  · cases hcalendar
  · cases hmillis
    refine ⟨plan, first, hplan, hfirst, hsix, hlength, ?_⟩
    rw [hlength.key _ (-1) rfl, Rat.floor_intCast_div_natCast]
    rfl

end GeoFacet
