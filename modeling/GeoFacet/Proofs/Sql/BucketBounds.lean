import GeoFacet.Proofs.Double.WholeText
import GeoFacet.Proofs.Json.Members
import GeoFacet.Proofs.Text.Split
import GeoFacet.Search.Facets
import GeoFacet.Sql.Facets

/-!
# The bounds of numeric buckets

A database divides a whole number by a whole number without a fraction, cutting off towards zero.
The width of a histogram that is whole is written without a point, so over a column of whole numbers
the key is cut off too: it is the lower bound of the bucket from zero on, and below zero the upper
one unless the value is a bound itself. The width of a date histogram is written with a point behind
it, and its keys are lower bounds throughout.

Main statements: `histogramKey_cutOff` and `dateKey_isLowerBound`.
-/

namespace GeoFacet

/-! ## Whole intervals -/

section Intervals

variable {n : Nat}

theorem Interval.splitNumber_toDigits (n : Nat) :
    splitNumber (Nat.toDigits 10 n) = (Nat.toDigits 10 n, []) := by
  rw [splitNumber, takeWhile_isDigit_toDigits, dropWhile_isDigit_toDigits]
  cases Nat.toDigits 10 n <;> rfl

theorem Interval.parse?_toString (hn : 0 < n) (h : n < 2 ^ 53) :
    parse? (toString n) = some ⟨Float.ofNat n, none⟩ := by
  have hdigits : (toString n).toList = Nat.toDigits 10 n := String.toList_ofList
  have htrim : Text.trimList (toString n).toList = Nat.toDigits 10 n := by
    rw [hdigits]
    refine Text.trimList_of_noSpace (List.any_eq_false.mpr fun c hc => ?_)
    rw [Text.isSpace_of_isDigit (Nat.isDigit_of_mem_toDigits (by decide) (by decide) hc)]
    decide
  have hne : (Nat.toDigits 10 n).isEmpty = false :=
    List.isEmpty_eq_false_iff.mpr Nat.toDigits_ne_nil
  have hread : readFloat? (String.ofList (Nat.toDigits 10 n)) = some (Float.ofNat n) :=
    readFloat?_toString hn h
  rw [parse?, htrim, splitNumber_toDigits]
  simp [hne, hread, zero_lt_ofNat hn h]

/-- An interval in digits is the width of a histogram. -/
theorem FacetSpec.histogramKind_toString (hn : 0 < n) (h : n < 2 ^ 53) :
    FacetSpec.histogramKind (toString n) = .ok (.histogram (Float.ofNat n)) := by
  rw [FacetSpec.histogramKind, Interval.parse, Interval.parse?_toString hn h]
  rfl

end Intervals

/-! ## Lower bounds -/

/-- The lower bound of the bucket of a value: the greatest multiple of the width that is not above
the value. -/
def IsLowerBound (width : Nat) (v key : Int) : Prop :=
  IsGreatest {k : Int | (width : Int) ∣ k ∧ k ≤ v} key

theorem isLowerBound_floor {width : Nat} (hwidth : 0 < width) (v : Int) :
    IsLowerBound width v (v / width * width) := by
  have hne : (width : Int) ≠ 0 := by omega
  refine ⟨⟨Int.dvd_mul_left _ _, Int.ediv_mul_le v hne⟩, ?_⟩
  rintro k ⟨⟨m, rfl⟩, hk⟩
  rw [Int.mul_comm]
  refine Int.mul_le_mul_of_nonneg_right ?_ (by omega)
  exact (Int.le_ediv_iff_mul_le (by omega)).mpr (by rwa [Int.mul_comm])

/-- A multiple of the width is the lower bound exactly if the value lies in the bucket above it. -/
theorem isLowerBound_iff {width : Nat} (hwidth : 0 < width) {v key : Int}
    (hkey : (width : Int) ∣ key) : IsLowerBound width v key ↔ key ≤ v ∧ v < key + width := by
  constructor
  · rintro ⟨⟨-, hle⟩, hgreatest⟩
    refine ⟨hle, lt_of_not_ge fun h => ?_⟩
    have := hgreatest ⟨Int.dvd_add hkey (Int.dvd_refl _), h⟩
    omega
  · rintro ⟨hle, hlt⟩
    refine ⟨⟨hkey, hle⟩, ?_⟩
    rintro k ⟨hk, hkv⟩
    obtain ⟨m, hm⟩ := hkey
    obtain ⟨n, rfl⟩ := hk
    have hlt : (width : Int) * n < width * (m + 1) := by
      rw [Int.mul_add, Int.mul_one, ← hm]
      omega
    have hless : n < m + 1 := Int.lt_of_mul_lt_mul_left hlt (by omega)
    rw [hm]
    exact Int.mul_le_mul_of_nonneg_left (by omega) (by omega)

/-- Rounded towards zero instead of down, a negative number that is no multiple is one more. -/
theorem tdiv_mul_cases {width : Nat} (hwidth : 0 < width) (v : Int) :
    (0 ≤ v ∨ (width : Int) ∣ v) ∧ v.tdiv width * width = v / width * width ∨
      ¬(0 ≤ v ∨ (width : Int) ∣ v) ∧ v.tdiv width * width = v / width * width + width := by
  rw [Int.tdiv_eq_ediv, Int.sign_eq_one_of_pos (by omega)]
  by_cases h : 0 ≤ v ∨ (width : Int) ∣ v
  · exact .inl ⟨h, by rw [if_pos h, Int.add_zero]⟩
  · exact .inr ⟨h, by rw [if_neg h, Int.add_mul, Int.one_mul]⟩

/-- Rounding towards zero comes to the lower bound for the values from zero on, and for bounds. -/
theorem isLowerBound_tdiv_iff {width : Nat} (hwidth : 0 < width) (v : Int) :
    IsLowerBound width v (v.tdiv width * width) ↔ 0 ≤ v ∨ (width : Int) ∣ v := by
  have hfloor := isLowerBound_floor hwidth v
  obtain ⟨h, heq⟩ | ⟨h, heq⟩ := tdiv_mul_cases hwidth v
  · rw [heq]
    exact iff_of_true hfloor h
  · rw [heq]
    refine iff_of_false (fun hbound => ?_) h
    have := hbound.unique hfloor
    omega

/-- The key that a search gives a value in a histogram: the quotient by the width, rounded down,
times the width. -/
def Search.histogramKey (width : Nat) (v : Int) : Int := ⌊(v : ℚ) / width⌋ * width

theorem Search.histogramKey_eq (width : Nat) (v : Int) :
    histogramKey width v = v / width * width := by
  rw [histogramKey, Rat.floor_intCast_div_natCast]

namespace Sql

/-! ## Numbers of statements -/

/-- A number as a statement computes with it: of a whole type, or of one that has fractions. -/
inductive NumericValue where
  | whole (n : Int)
  | rational (q : ℚ)

namespace NumericValue

def toRat : NumericValue → ℚ
  | whole n => n
  | rational q => q

/-- A literal is of a whole type if it is written in digits alone. -/
def ofLiteral? (text : String) : Option NumericValue :=
  match digitsValue? text.toList with
  | some n => some (whole n)
  | none => (readDecimal? text.toList).map fun d => rational (d.significand * 10 ^ d.exponent)

/-- The operators between whole numbers stay whole: a quotient is cut off. -/
def ofOperands? (op : Arithmetic) : NumericValue → NumericValue → Option NumericValue
  | whole a, whole b =>
    match op with
    | .add => some (whole (a + b))
    | .sub => some (whole (a - b))
    | .mul => some (whole (a * b))
    | .div => if b = 0 then none else some (whole (a.tdiv b))
  | a, b =>
    match op with
    | .add => some (rational (a.toRat + b.toRat))
    | .sub => some (rational (a.toRat - b.toRat))
    | .mul => some (rational (a.toRat * b.toRat))
    | .div => if b.toRat = 0 then none else some (rational (a.toRat / b.toRat))

/-- The functions on numbers: rounding down, which leaves the whole types. -/
def ofCall? (function : String) : List NumericValue → Option NumericValue
  | [a] => if function = "FLOOR" then some (rational ⌊a.toRat⌋) else none
  | _ => none

/-- A cast of a number without a fraction to the whole type. -/
def ofCast? (type : String) (a : NumericValue) : Option NumericValue :=
  if type = "BIGINT" ∧ a.toRat.den = 1 then some (whole a.toRat.num) else none

theorem ofLiteral?_toString (n : Nat) : ofLiteral? (toString n) = some (whole n) := by
  have hdigits : (toString n).toList = Nat.toDigits 10 n := String.toList_ofList
  rw [ofLiteral?, hdigits, digitsValue?_toDigits]

end NumericValue

/-! ## Values of expressions -/

namespace Expr

mutual

/-- The value of an arithmetic expression over a row. A number is of the type that its text has. -/
def value? (row : String → Option NumericValue) : Expr → Option NumericValue
  | .column name => row name
  | .whole n => some (.whole n)
  | .tenths n => some (.rational n)
  | .double x => NumericValue.ofLiteral? (plainText x)
  | .binary op left right => do NumericValue.ofOperands? op (← left.value? row) (← right.value? row)
  | .parens e => e.value? row
  | .call function arguments => do NumericValue.ofCall? function (← valueList? row arguments)
  | .cast e type => do NumericValue.ofCast? type (← e.value? row)
  | _ => none

def valueList? (row : String → Option NumericValue) : List Expr → Option (List NumericValue)
  | [] => some []
  | e :: rest => do some ((← e.value? row) :: (← valueList? row rest))

end

variable {row : String → Option NumericValue} {column : Expr} {v : Int} {width : Nat}

/-- The quotient is rounded down, whatever the division has left of it. -/
theorem value?_floorTo {divisor factor : Expr} {a b c q : NumericValue}
    (ha : column.value? row = some a) (hb : divisor.value? row = some b)
    (hc : factor.value? row = some c) (hq : NumericValue.ofOperands? .div a b = some q) :
    (floorTo column divisor factor).value? row =
      NumericValue.ofOperands? .mul (.rational ⌊q.toRat⌋) c := by
  simp only [floorTo, value?, valueList?, ha, hb, hc, hq, Option.bind_eq_bind, Option.bind_some]
  rfl

/-- Divided by a whole number, a whole number is cut off first. -/
theorem value?_floorTo_whole {divisor : Expr} (hv : column.value? row = some (.whole v))
    (hdivisor : divisor.value? row = some (.whole width)) (hwidth : 0 < width) :
    (floorTo column divisor divisor).value? row =
      some (.rational ((v.tdiv width * width : Int) : ℚ)) := by
  have hne : (width : Int) ≠ 0 := by omega
  rw [value?_floorTo hv hdivisor hdivisor (if_neg hne), NumericValue.toRat, Int.floor_intCast,
    Int.cast_mul]
  rfl

/-- Divided by a number with a point, a whole number is rounded down. -/
theorem value?_floorTo_tenths (hv : column.value? row = some (.whole v)) (hwidth : 0 < width) :
    (floorTo column (.tenths width) (.whole width)).value? row =
      some (.rational ((v / width * width : Int) : ℚ)) := by
  have hne : (width : ℚ) ≠ 0 := by exact_mod_cast hwidth.ne'
  have hdivisor : (tenths width).value? row = some (.rational width) := by rw [value?]
  have hfactor : (whole width).value? row = some (.whole width) := by rw [value?]
  rw [value?_floorTo hv hdivisor hfactor (if_neg hne), NumericValue.toRat, Int.cast_mul,
    ← Rat.floor_intCast_div_natCast v width]
  rfl

end Expr

/-! ## Keys -/

/-- A date histogram with units of a fixed length has the lower bounds of its buckets for keys. -/
theorem dateKey_isLowerBound {l : FacetLevel} {unit : DateUnit} {multiplier millis : Nat}
    (hkind : l.kind = .dateHistogram unit multiplier) (hunit : unit.fixedMillis? = some millis)
    (hmultiplier : 0 < multiplier) {row : String → Option NumericValue} {v : Int}
    (hv : row l.field = some (.whole v)) :
    ∃ key, (keyColumn l).value.value? row = some (.whole key) ∧
      IsLowerBound (millis * multiplier) v key := by
  have hmillis : 0 < millis := by
    cases unit <;> cases hunit <;> decide
  have hwidth : 0 < millis * multiplier := Nat.mul_pos hmillis hmultiplier
  refine ⟨_, ?_, isLowerBound_floor hwidth v⟩
  have hcolumn : (Expr.column l.field).value? row = some (.whole v) := by rw [Expr.value?, hv]
  have hfloor := Expr.value?_floorTo_tenths hcolumn hwidth
  have hexpr : (keyColumn l).value = .cast (Expr.floorTo (.column l.field)
      (.tenths (millis * multiplier)) (.whole (millis * multiplier))) "BIGINT" := by
    rw [keyColumn, hkind, Expr.bucketKey, hunit]
  rw [hexpr, Expr.value?, hfloor]
  show NumericValue.ofCast? "BIGINT" (.rational ((v / (millis * multiplier : Nat) *
    (millis * multiplier : Nat) : Int) : ℚ)) = _
  rw [NumericValue.ofCast?, if_pos ⟨rfl, Rat.den_intCast _⟩, NumericValue.toRat, Rat.num_intCast]

theorem textOf_histogramKey {l : FacetLevel} {width : Float} (hkind : l.kind = .histogram width) :
    Token.textOf (keyColumn l).value.tokens =
      "FLOOR(" ++ quote l.field ++ " / " ++ plainText width ++ ") * " ++ plainText width := by
  have hclosing : ")" ++ (" * " ++ plainText width) = ") * " ++ plainText width := by
    rw [← String.append_assoc]
    rfl
  rw [keyColumn, hkind]
  show Token.textOf [.word "FLOOR(", .name l.field, .word " / ", .word (plainText width),
    .word ")", .word " * ", .word (plainText width)] = _
  simp only [Token.textOf, Token.text, String.append_empty, String.append_assoc, hclosing]

/-- A search is asked for the width as a number. -/
theorem member_interval {l : FacetLevel} {width : Float} (hkind : l.kind = .histogram width)
    (hwidth : width.isFinite = true) :
    (Search.Aggregation.bodyJson l).member "interval" = .float width := by
  rw [Search.Aggregation.bodyJson, hkind, Json.member, Json.get?_ofPresent]
  · show Json.ofFloat width = _
    rw [Json.ofFloat, if_pos hwidth]
  · simp [Search.Aggregation.kindMembers]

/-- Over a column of whole numbers the key of a histogram of whole width is cut off. -/
theorem value?_histogramKey {l : FacetLevel} {width : Nat} (hwidth : 1 ≤ width ∧ width < 2 ^ 53)
    (hkind : l.kind = .histogram (Float.ofNat width)) {row : String → Option NumericValue} {v : Int}
    (hv : row l.field = some (.whole v)) :
    (keyColumn l).value.value? row = some (.rational (v.tdiv width * width : Int)) := by
  have hcolumn : (Expr.column l.field).value? row = some (.whole v) := by rw [Expr.value?, hv]
  have hdivisor : (Expr.double (Float.ofNat width)).value? row = some (.whole width) := by
    rw [Expr.value?, plainText_ofNat hwidth.1 hwidth.2, NumericValue.ofLiteral?_toString]
  rw [keyColumn, hkind, Expr.bucketKey]
  exact Expr.value?_floorTo_whole hcolumn hdivisor hwidth.1

/-- **The keys of a histogram of whole width are cut off.** The interval of such a level may be
given in digits. In the key of the statement the width is written with these digits alone; the body
of a search has it as a number. Over a column of whole numbers the key is the width times the
quotient without its fraction. It is the key of the search, and the lower bound of the bucket,
exactly for a value that is not negative or is a bound itself; for another one it is the upper bound
of its bucket. -/
theorem histogramKey_cutOff {l : FacetLevel} {width : Nat} (hwidth : 1 ≤ width ∧ width < 2 ^ 53)
    (hkind : l.kind = .histogram (Float.ofNat width)) :
    FacetSpec.histogramKind (toString width) = .ok l.kind ∧
    Token.textOf (keyColumn l).value.tokens =
      "FLOOR(" ++ quote l.field ++ " / " ++ toString width ++ ") * " ++ toString width ∧
    (Search.Aggregation.bodyJson l).member "interval" = .float (Float.ofNat width) ∧
    ∀ (row : String → Option NumericValue) (v : Int), row l.field = some (.whole v) →
      IsLowerBound width v (Search.histogramKey width v) ∧
      ∃ key : Int, (keyColumn l).value.value? row = some (.rational key) ∧
        key = v.tdiv width * width ∧
        (key = Search.histogramKey width v ↔ 0 ≤ v ∨ (width : Int) ∣ v) ∧
        (IsLowerBound width v key ↔ 0 ≤ v ∨ (width : Int) ∣ v) ∧
        (key ≤ v ∧ v < key + width ↔ 0 ≤ v ∨ (width : Int) ∣ v) ∧
        (¬(0 ≤ v ∨ (width : Int) ∣ v) →
          key = Search.histogramKey width v + width ∧ v < key) := by
  have hpos : 0 < width := hwidth.1
  refine ⟨?_, ?_, member_interval hkind (isFinite_ofNat hwidth.1 hwidth.2), fun row v hv => ?_⟩
  · rw [hkind, FacetSpec.histogramKind_toString hwidth.1 hwidth.2]
  · rw [textOf_histogramKey hkind, plainText_ofNat hwidth.1 hwidth.2]
  · have hfloor := isLowerBound_floor hpos v
    have hbounds := (isLowerBound_iff hpos (Int.dvd_mul_left _ _)).mp hfloor
    -- Cutting off agrees with rounding down except below zero, between two bounds.
    have hiff := isLowerBound_tdiv_iff hpos v
    rw [Search.histogramKey_eq]
    refine ⟨hfloor, _, value?_histogramKey hwidth hkind hv, rfl, ?_, hiff, ?_, fun h => ?_⟩
    · rw [← hiff]
      constructor
      · intro heq
        rwa [heq]
      · exact fun h => h.unique hfloor
    · rw [← isLowerBound_iff hpos (Int.dvd_mul_left _ _), hiff]
    · obtain ⟨h', -⟩ | ⟨-, heq⟩ := tdiv_mul_cases hpos v
      · exact absurd h' h
      · rw [heq]
        exact ⟨rfl, hbounds.2⟩

/-! ### Dives

The depths of dives lie below zero. -/

def dives : Collection :=
  ⟨"dives", "dives", "id", "track", "place", "started", "epoch_millis", [],
    [("depth", .integer), ("id", .integer)]⟩

/-- The depths in steps of ten. -/
def byDepth : FacetSpec :=
  { (default : FacetSpec) with
    type := .histogram, field := some "depth", interval := some "10" }

theorem histogramKey_cutOff_dives : ∃ (plan : FacetPlan) (l : FacetLevel),
    FacetPlan.compile dives false [byDepth] = .ok plan ∧ plan.levels = [l] ∧
      Token.textOf (keyColumn l).value.tokens = "FLOOR(\"depth\" / 10) * 10" ∧
      (keyColumn l).value.value? (fun _ => some (.whole (-5))) = some (.rational 0) ∧
      IsLowerBound 10 (-5) (-10) ∧ ¬IsLowerBound 10 (-5) 0 := by
  obtain ⟨plan, l, hplan, hl, hfield, hkind⟩ : ∃ (plan : FacetPlan) (l : FacetLevel),
      FacetPlan.compile dives false [byDepth] = .ok plan ∧ plan.levels = [l] ∧
        l.field = "depth" ∧ l.kind = .histogram (Float.ofNat 10) := ⟨_, _, rfl, rfl, rfl, rfl⟩
  obtain ⟨-, htext, -, hvalues⟩ := histogramKey_cutOff (by decide) hkind
  obtain ⟨hfloor, key, hkey, hcut, -, hiff, -⟩ := hvalues (fun _ => some (.whole (-5))) (-5) rfl
  obtain rfl : key = 0 := hcut
  refine ⟨plan, l, hplan, hl, ?_, hkey, ?_, ?_⟩
  · rw [htext, hfield]
    decide
  · rw [Search.histogramKey_eq] at hfloor
    exact hfloor
  · rw [hiff]
    decide

end Sql

end GeoFacet
