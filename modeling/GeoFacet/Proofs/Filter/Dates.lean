import GeoFacet.Filter.Condition
import GeoFacet.Proofs.Filter.Ranges

/-!
# Dates in filters

The operators on a date field read a text in one of two ways. Order comparisons and ranges take what
the text *denotes* in the date format of the request. Equality and its negation take the number that
the text *shows*, as milliseconds, whatever the format is. Without a format both are the same; with
one they agree on a text exactly where it shows the milliseconds that it denotes.

Main statement: `date_operators_read`.
-/

namespace GeoFacet

namespace DatePattern

/-! ## A blank text is no date -/

theorem readField?_nil (f : DateField) (p : Parts) : readField? f p [] = none := by
  cases f <;> rfl

/-- Nothing is read from the empty text. -/
theorem readItems?_nil {items : List DateItem} {p q : Parts} (h : readItems? p items [] = some q) :
    q = p := by
  induction items with
  | nil =>
    cases h
    rfl
  | cons item items ih =>
    cases item with
    | field f =>
      rw [readItems?, readField?_nil] at h
      cases h
    | literal c =>
      rw [readItems?] at h
      split at h
      · exact ih h
      · cases h

theorem read?_empty (items : List DateItem) : read? items "" = none := by
  rw [read?, Option.bind_eq_none_iff]
  intro p hp
  rw [readItems?_nil hp]
  rfl

end DatePattern

/-- A blank text is no date in any format. -/
theorem not_readDate_of_isBlank {text format : String} (h : Text.isBlank text) (n : Int) :
    readDate text format ≠ .ok n := by
  intro hread
  obtain ⟨f, -, hread⟩ := Outcome.bind_eq_ok.mp hread
  have hnumber : readInt64? "" = none := rfl
  rw [Outcome.orRefuse_eq_ok, Text.trim_of_isBlank h] at hread
  cases f <;>
    simp [DateFormat.read?, hnumber, DatePattern.read?_empty] at hread

theorem Scalar.parse_trim (text : String) : parse (Text.trim text) = parse text := by
  rw [parse, parse, Text.trim_trim]

/-! ## What an operator reads -/

namespace Operator

/-- The order comparison of an operator. -/
def comparison? : Operator → Option Comparison
  | gte => some .gte
  | gt => some .gt
  | lte => some .lte
  | lt => some .lt
  | _ => none

/-- The condition of an operator that compares a date field with one value. -/
def dateCondition? (op : Operator) (field : String) (x : Scalar) : Option Condition :=
  match op with
  | eq => some (.oneOf field [x])
  | ne => some (.noneOf field [x])
  | op => op.comparison?.map fun k => .compare field k x true

/-- The operators that compare a date field with one value. -/
def onDates : List Operator := [eq, ne, gte, gt, lte, lt]

end Operator

namespace Condition

/-- The operator accepts a text on a field and compares with a value. -/
def Reads (c : Collection) (dateFormat : Option String) (field : String) (op : Operator)
    (text : String) (x : Scalar) : Prop :=
  ∃ cond, op.dateCondition? (Text.trim field) x = some cond ∧
    ofExpression c dateFormat ⟨field, op, text⟩ = .ok cond

/-- The number that a text shows, as milliseconds. -/
def shown? (text : String) : Option Scalar := (some (Scalar.parse text)).filter Scalar.isNumber

/-- The milliseconds that a text denotes in the format of a request; the number that it shows where
there is no format. -/
def denoted? (dateFormat : Option String) (text : String) : Option Scalar :=
  match dateFormat with
  | none => shown? text
  | some format => (readDate text format).toOption.map .integer

theorem typedValue_date {field text : String} {x : Scalar} :
    typedValue .date field text = .ok x ↔ shown? text = some x := by
  have hmeasure : FieldType.isMeasure .date = true := rfl
  rw [typedValue]
  simp only [hmeasure, if_true, Scalar.parse_trim, shown?, Option.filter_some]
  by_cases hnumber : (Scalar.parse text).isNumber
  · simp [hnumber]
  · simp [hnumber, refuseField]

/-- What an order comparison reads. -/
theorem ofParts_comparison {dateFormat : Option String} {field text : String} {op : Operator}
    {k : Comparison} (hop : op.comparison? = some k) {cond : Condition} :
    ofParts dateFormat .date field op text = .ok cond ↔
      ∃ x, denoted? dateFormat text = some x ∧ .compare field k x true = cond := by
  cases dateFormat with
  | none =>
    have hparts : ofParts none .date field op text =
        (typedValue .date field text >>= fun x => .ok (.compare field k x true)) := by
      cases op <;> cases hop <;> rfl
    rw [hparts, Outcome.bind_eq_ok]
    exact exists_congr fun x => and_congr typedValue_date (by simp)
  | some format =>
    have hparts : ofParts (some format) .date field op text =
        ((readDate text format).map .integer >>= fun x => .ok (.compare field k x true)) := by
      cases op <;> cases hop <;> rfl
    rw [hparts, Outcome.bind_eq_ok]
    refine exists_congr fun x => and_congr ?_ (by simp)
    rw [denoted?, Outcome.map_eq_ok, Option.map_eq_some_iff]
    simp [Outcome.toOption_eq_some]

/-- What equality and its negation read. -/
theorem ofParts_equality {dateFormat : Option String} {field text : String}
    (hcomma : ',' ∉ text.toList) (hblank : Text.isBlank text = false) {cond : Condition} :
    (ofParts dateFormat .date field .eq text = .ok cond ↔
      ∃ x, shown? text = some x ∧ .oneOf field [x] = cond) ∧
    (ofParts dateFormat .date field .ne text = .ok cond ↔
      ∃ x, shown? text = some x ∧ .noneOf field [x] = cond) := by
  -- A text without a comma is a list of one value.
  have hvalues {vs : List Scalar} :
      typedValues .date field text = .ok vs ↔ ∃ x, shown? text = some x ∧ [x] = vs := by
    rw [typedValues, Text.items_of_notMem hcomma, hblank, if_neg (by simp), Outcome.mapM_cons]
    constructor
    · intro h
      obtain ⟨values, hvalues, h⟩ := Outcome.bind_eq_ok.mp h
      obtain ⟨x, hx, hvalues⟩ := Outcome.bind_eq_ok.mp hvalues
      cases hvalues
      cases h
      rw [typedValue_date, shown?, Scalar.parse_trim] at hx
      exact ⟨x, hx, rfl⟩
    · rintro ⟨x, hx, rfl⟩
      have htrim : typedValue .date field (Text.trim text) = .ok x := by
        rwa [typedValue_date, shown?, Scalar.parse_trim]
      rw [htrim]
      rfl
  have hparts (f : List Scalar → Condition) :
      (typedValues .date field text).map f = .ok cond ↔
        ∃ x, shown? text = some x ∧ f [x] = cond := by
    rw [Outcome.map_eq_ok]
    constructor
    · rintro ⟨vs, hvs, hcond⟩
      obtain ⟨x, hx, rfl⟩ := hvalues.mp hvs
      exact ⟨x, hx, hcond⟩
    · rintro ⟨x, hx, hcond⟩
      exact ⟨[x], hvalues.mpr ⟨x, hx, rfl⟩, hcond⟩
  exact ⟨hparts (.oneOf field), hparts (.noneOf field)⟩

section Expressions

variable {c : Collection} {dateFormat : Option String} {field text : String}

/-- An expression on a date field is checked for a field and a value, and its parts are read. -/
theorem ofExpression_date (hfield : c.fieldType (Text.trim field) = .ok .date) (op : Operator)
    {cond : Condition} : ofExpression c dateFormat ⟨field, op, text⟩ = .ok cond ↔
      (Text.isBlank field = false ∧ Text.isBlank text = false) ∧
        ofParts dateFormat .date (Text.trim field) op text = .ok cond := by
  rw [ofExpression, Expression.check]
  by_cases hname : Text.isBlank field
  · simp [hname, refuse]
  · by_cases htext : Text.isBlank text
    · simp [hname, htext, refuseField]
    · simp [hname, htext, hfield]

/-- **Order comparisons read what a text denotes.** -/
theorem reads_comparison (dateFormat : Option String) (text : String)
    (hfield : c.fieldType (Text.trim field) = .ok .date) {op : Operator} {k : Comparison}
    (hop : op.comparison? = some k) (x : Scalar) :
    Reads c dateFormat field op text x ↔
      (Text.isBlank field = false ∧ Text.isBlank text = false) ∧
        denoted? dateFormat text = some x := by
  have hcond : op.dateCondition? (Text.trim field) x =
      some (.compare (Text.trim field) k x true) := by
    cases op <;> cases hop <;> rfl
  rw [Reads, hcond]
  simp only [Option.some.injEq, exists_eq_left', ofExpression_date hfield, ofParts_comparison hop,
    Condition.compare.injEq, true_and, and_true, exists_eq_right]

/-- **Equality reads the number that a text shows**, in any format. -/
theorem reads_equality (dateFormat : Option String)
    (hfield : c.fieldType (Text.trim field) = .ok .date) (hcomma : ',' ∉ text.toList)
    {op : Operator} (hop : op = .eq ∨ op = .ne) (x : Scalar) :
    Reads c dateFormat field op text x ↔
      (Text.isBlank field = false ∧ Text.isBlank text = false) ∧ shown? text = some x := by
  rw [Reads]
  by_cases hblank : Text.isBlank text = false
  · rcases hop with rfl | rfl <;>
      simp [Operator.dateCondition?, ofExpression_date hfield, ofParts_equality, hcomma, hblank]
  · simp [ofExpression_date hfield, hblank]

/-- Every operator with one value compiles exactly if it reads a value. -/
theorem exists_reads_iff (hfield : c.fieldType (Text.trim field) = .ok .date)
    (hcomma : ',' ∉ text.toList) {op : Operator} (hop : op ∈ Operator.onDates) :
    (∃ cond, ofExpression c dateFormat ⟨field, op, text⟩ = .ok cond) ↔
      ∃ x, Reads c dateFormat field op text x := by
  constructor
  · rintro ⟨cond, hcond⟩
    obtain ⟨⟨hname, hblank⟩, hparts⟩ := (ofExpression_date hfield op).mp hcond
    suffices h : ∃ x, op.dateCondition? (Text.trim field) x = some cond by
      obtain ⟨x, hx⟩ := h
      exact ⟨x, cond, hx, hcond⟩
    cases hk : op.comparison? with
    | some k =>
      obtain ⟨x, -, rfl⟩ := (ofParts_comparison hk).mp hparts
      refine ⟨x, ?_⟩
      cases op <;> cases hk <;> rfl
    | none =>
      -- An operator on dates that compares nothing is one of the two equalities.
      have hequality : op = .eq ∨ op = .ne := by
        cases op <;> simp [Operator.onDates, Operator.comparison?] at hop hk ⊢
      rcases hequality with rfl | rfl
      · obtain ⟨x, -, rfl⟩ := (ofParts_equality hcomma hblank).1.mp hparts
        exact ⟨x, rfl⟩
      · obtain ⟨x, -, rfl⟩ := (ofParts_equality hcomma hblank).2.mp hparts
        exact ⟨x, rfl⟩
  · rintro ⟨x, cond, -, hcond⟩
    exact ⟨cond, hcond⟩

/-- The bounds of a range are what a text denotes. -/
theorem denoted?_of_bound {x : Scalar} (h : ValueRange.bound dateFormat text = .ok x)
    (hnumber : x.isNumber = true) : denoted? dateFormat text = some x := by
  cases dateFormat with
  | none =>
    have hx : Scalar.parse text = x := Except.ok.inj h
    rw [denoted?, shown?, hx, Option.filter_some, if_pos hnumber]
  | some format =>
    obtain ⟨n, hn, rfl⟩ := Outcome.map_eq_ok.mp h
    rw [denoted?, Outcome.toOption_eq_some.mpr hn]
    rfl

/-- A blank text denotes nothing. -/
theorem not_isBlank_of_denoted? {x : Scalar} (h : denoted? dateFormat text = some x) :
    Text.isBlank text = false := by
  by_contra hblank
  rw [Bool.not_eq_false] at hblank
  cases dateFormat with
  | none =>
    have hempty : Scalar.parse "" = .text "" := rfl
    rw [denoted?, shown?, ← Scalar.parse_trim, Text.trim_of_isBlank hblank, hempty] at h
    cases h
  | some format =>
    obtain ⟨n, hn, -⟩ := Option.map_eq_some_iff.mp h
    exact not_readDate_of_isBlank hblank n (Outcome.toOption_eq_some.mp hn)

/-- **A range reads its bounds as order comparisons do.** -/
theorem reads_of_range {min max : String} (hfield : c.fieldType (Text.trim field) = .ok .date)
    (hmin : ',' ∉ min.toList ∧ '<' ∉ min.toList) (hmax : ',' ∉ max.toList ∧ '<' ∉ max.toList)
    {minInclusive maxInclusive : Bool} {cond : Condition}
    (h : ofExpression c dateFormat
      ⟨field, .range, ValueRange.itemText minInclusive maxInclusive min max⟩ = .ok cond) :
    ∃ x y, cond = .ranges (Text.trim field) [⟨x, y, minInclusive, maxInclusive⟩] true ∧
      Reads c dateFormat field .gte min x ∧ Reads c dateFormat field .lte max y := by
  obtain ⟨⟨hname, -⟩, hparts⟩ := (ofExpression_date hfield .range).mp h
  obtain ⟨ranges, hranges, hparts⟩ := Outcome.bind_eq_ok.mp hparts
  obtain ⟨x, y, rfl, hx, hy⟩ := ValueRange.parse_itemText dateFormat hmin hmax
    (Outcome.mapError_eq_ok.mp hranges)
  obtain ⟨_, hbounds, hparts⟩ := Outcome.bind_eq_ok.mp hparts
  cases hparts
  -- Bounds that are texts would have been refused on a date.
  have hnumbers : x.isNumber = true ∧ y.isNumber = true := by
    by_contra hnot
    have htextual : (!x.isNumber || !y.isNumber) = true := by
      revert hnot
      cases x.isNumber <;> cases y.isNumber <;> simp
    rw [checkBounds, if_pos (by simpa [FieldType.isMeasure, FieldType.isDate] using htextual)]
      at hbounds
    cases hbounds
  have hmin := denoted?_of_bound hx hnumbers.1
  have hmax := denoted?_of_bound hy hnumbers.2
  refine ⟨x, y, rfl, ?_, ?_⟩
  · exact (reads_comparison _ _ hfield rfl _).mpr ⟨⟨hname, not_isBlank_of_denoted? hmin⟩, hmin⟩
  · exact (reads_comparison _ _ hfield rfl _).mpr ⟨⟨hname, not_isBlank_of_denoted? hmax⟩, hmax⟩

/-- A whole number of seconds denotes a thousand times what it shows. -/
theorem denoted?_epochSecond {n : Int} (h : shown? text = some (.integer n)) :
    denoted? (some "epoch_second") text = some (.integer (DateFormat.saturate (1000 * n))) := by
  have hread : readInt64? (Text.trim text) = some n := by
    rw [shown?, Option.filter_eq_some_iff, Option.some.injEq, Scalar.parse] at h
    obtain ⟨h, -⟩ := h
    split at h
    · rename_i hm
      cases h
      exact hm
    · split at h
      · split at h <;> cases h
      · cases h
  have hformat : DateFormat.ofText "epoch_second" = .ok .epochSecond := rfl
  have hdate : readDate text "epoch_second" = .ok (DateFormat.saturate (1000 * n)) := by
    simp only [readDate, hformat, Outcome.ok_bind, DateFormat.read?, hread, Option.map_some, orRefuse]
  rw [denoted?, hdate]
  rfl

end Expressions

end Condition

/-- **What the operators on a date field read.** Each of them compiles exactly if it reads a value.
The order comparisons read the same, ranges read their bounds as these do, and equality and its
negation read the same. -/
theorem date_operators_read {c : Collection} {field v w : String} (dateFormat : Option String)
    (hfield : c.fieldType (Text.trim field) = .ok .date)
    (hv : ',' ∉ v.toList ∧ '<' ∉ v.toList) (hw : ',' ∉ w.toList ∧ '<' ∉ w.toList) :
    (∀ op ∈ Operator.onDates,
      (∃ cond, Condition.ofExpression c dateFormat ⟨field, op, v⟩ = .ok cond) ↔
        ∃ x, Condition.Reads c dateFormat field op v x) ∧
    (∀ op op' : Operator, op.comparison?.isSome → op'.comparison?.isSome → ∀ x,
      Condition.Reads c dateFormat field op v x ↔ Condition.Reads c dateFormat field op' v x) ∧
    (∀ minInclusive maxInclusive cond, Condition.ofExpression c dateFormat
        ⟨field, .range, ValueRange.itemText minInclusive maxInclusive v w⟩ = .ok cond →
      ∃ x y, cond = .ranges (Text.trim field) [⟨x, y, minInclusive, maxInclusive⟩] true ∧
        Condition.Reads c dateFormat field .gte v x ∧
        Condition.Reads c dateFormat field .lte w y) ∧
    (∀ x, Condition.Reads c dateFormat field .eq v x ↔
      Condition.Reads c dateFormat field .ne v x) ∧
    ((∀ x, Condition.Reads c dateFormat field .eq v x ↔
        Condition.Reads c dateFormat field .gte v x) ↔
      Text.isBlank field = true ∨ Text.isBlank v = true ∨
        Condition.shown? v = Condition.denoted? dateFormat v) ∧
    (dateFormat = some "epoch_second" → ∀ n, Condition.Reads c dateFormat field .eq v (.integer n) →
      Condition.Reads c dateFormat field .gte v (.integer (DateFormat.saturate (1000 * n)))) := by
  have hequality {op : Operator} (hop : op = .eq ∨ op = .ne) (x : Scalar) :=
    Condition.reads_equality dateFormat hfield hv.1 hop x
  have hcomparison {op : Operator} {k : Comparison} (hk : op.comparison? = some k) (x : Scalar) :=
    Condition.reads_comparison dateFormat v hfield hk x
  refine ⟨fun op hop => Condition.exists_reads_iff hfield hv.1 hop, ?_, ?_, ?_, ?_, ?_⟩
  · intro op op' hop hop' x
    obtain ⟨k, hk⟩ := Option.isSome_iff_exists.mp hop
    obtain ⟨k', hk'⟩ := Option.isSome_iff_exists.mp hop'
    rw [hcomparison hk, hcomparison hk']
  · intro minInclusive maxInclusive cond hcond
    exact Condition.reads_of_range hfield hv hw hcond
  · intro x
    rw [hequality (.inl rfl), hequality (.inr rfl)]
  · -- Where neither name nor value is blank, the operators agree exactly if the two readings do.
    simp only [hequality (.inl rfl), hcomparison (rfl : Operator.comparison? .gte = some .gte)]
    by_cases hname : Text.isBlank field
    · simp [hname]
    · by_cases hblank : Text.isBlank v
      · simp [hblank]
      · simp only [hname, hblank, Bool.false_eq_true, false_or, and_self, true_and]
        exact Option.ext_iff.symm
  · rintro rfl n hn
    obtain ⟨hchecked, hshown⟩ := (hequality (.inl rfl) _).mp hn
    exact (hcomparison rfl _).mpr ⟨hchecked, Condition.denoted?_epochSecond hshown⟩

/-! ### Seconds from the epoch

A minute from the epoch is the sixtieth millisecond for equality and the sixtieth second for the
comparisons. -/

def visits : Collection :=
  ⟨"visits", "visits", "id", "shape", "center", "seen", "epoch_millis", [],
    [("id", .integer), ("seen", .date)]⟩

theorem date_operators_read_seconds : visits.fieldType (Text.trim "seen") = .ok .date ∧
    Condition.Reads visits (some "epoch_second") "seen" .eq "60" (.integer 60) ∧
    Condition.Reads visits (some "epoch_second") "seen" .ne "60" (.integer 60) ∧
    Condition.Reads visits (some "epoch_second") "seen" .gte "60" (.integer 60000) ∧
    Condition.Reads visits (some "epoch_second") "seen" .lt "60" (.integer 60000) ∧
    ¬(∀ x, Condition.Reads visits (some "epoch_second") "seen" .eq "60" x ↔
      Condition.Reads visits (some "epoch_second") "seen" .gte "60" x) := by
  have hfield : visits.fieldType (Text.trim "seen") = .ok .date := rfl
  obtain ⟨-, hcomparisons, -, hequality, hagree, hseconds⟩ :=
    date_operators_read (v := "60") (w := "61") (some "epoch_second") hfield (by decide) (by decide)
  have heq : Condition.Reads visits (some "epoch_second") "seen" .eq "60" (.integer 60) :=
    ⟨_, rfl, rfl⟩
  have hgte := hseconds rfl 60 heq
  refine ⟨hfield, heq, (hequality _).mp heq, hgte, (hcomparisons .gte .lt rfl rfl _).mp hgte, ?_⟩
  intro hall
  obtain ⟨cond, hcond, hread⟩ := (hall _).mp heq
  obtain ⟨cond', hcond', hread'⟩ := hgte
  cases hcond
  cases hcond'
  have hdiffer : (60 : Int) ≠ DateFormat.saturate (1000 * 60) := by decide
  exact absurd (hread.symm.trans hread') (by simpa using hdiffer)

end GeoFacet
