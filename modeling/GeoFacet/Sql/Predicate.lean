import GeoFacet.Filter.Condition
import GeoFacet.Geo.Wkt
import GeoFacet.Sql.Expr

/-!
# Row predicates

A predicate says which rows a statement keeps. It is built over the values that it compares with,
and then numbered: each value gives way to the number of its placeholder, so the text of a statement
depends on the form of a predicate alone. `AND` binds tighter than `OR`; every choice among several
predicates stands in parentheses.
-/

namespace GeoFacet.Sql

/-- A condition on a row, over values of type `α`. -/
inductive Predicate (α : Type) where
  | isNull (column : String)
  | notNull (column : String)
  | equal (e : Expr) (value : α)
  | compare (e : Expr) (op : Comparison) (value : α)
  | isOneOf (column : String) (values : List α)
  | isNoneOf (column : String) (values : List α)
  /-- the text matches a pattern -/
  | like (e : Expr) (pattern : α)
  /-- the text matches a pattern in any case -/
  | likeAnyCase (e : Expr) (pattern : α)
  | spatial (relation : SpatialRelation) (column : String) (shape : α)
  | not (p : Predicate α)
  | all (ps : List (Predicate α))
  | any (ps : List (Predicate α))
  | parens (p : Predicate α)
  deriving Inhabited

namespace Predicate

variable {α : Type}

/-! ## Values and their numbers -/

mutual

/-- The values in the order they are written in. -/
def values : Predicate α → List α
  | .isNull _ | .notNull _ => []
  | .equal _ v | .compare _ _ v | .like _ v | .likeAnyCase _ v | .spatial _ _ v => [v]
  | .isOneOf _ vs | .isNoneOf _ vs => vs
  | .not p | .parens p => p.values
  | .all ps | .any ps => valuesList ps

def valuesList : List (Predicate α) → List α
  | [] => []
  | p :: rest => p.values ++ valuesList rest

end

mutual

/-- The predicate with its values numbered from `n` on. -/
def number (n : Nat) : Predicate α → Predicate Nat
  | .isNull column => .isNull column
  | .notNull column => .notNull column
  | .equal e _ => .equal e n
  | .compare e op _ => .compare e op n
  | .isOneOf column vs => .isOneOf column (List.range' n vs.length)
  | .isNoneOf column vs => .isNoneOf column (List.range' n vs.length)
  | .like e _ => .like e n
  | .likeAnyCase e _ => .likeAnyCase e n
  | .spatial relation column _ => .spatial relation column n
  | .not p => .not (p.number n)
  | .all ps => .all (numberList n ps)
  | .any ps => .any (numberList n ps)
  | .parens p => .parens (p.number n)

def numberList (n : Nat) : List (Predicate α) → List (Predicate Nat)
  | [] => []
  | p :: rest => p.number n :: numberList (n + p.values.length) rest

end

/-! ## Text -/

/-- The name of a spatial test. -/
def relationName : SpatialRelation → String
  | .within => "ST_Within"
  | .intersects => "ST_Intersects"

/-- Placeholders between commas. -/
def placeholders (ns : List Nat) : List Token :=
  Token.join ", " (ns.map fun n => [.placeholder n])

mutual

/-- The text of a numbered predicate. -/
def tokens : Predicate Nat → List Token
  | .isNull column => [.name column, .word " IS NULL"]
  | .notNull column => [.name column, .word " IS NOT NULL"]
  | .equal e n => e.tokens ++ [.word " = ", .placeholder n]
  | .compare e op n => e.tokens ++ [.word (" " ++ op.symbol ++ " "), .placeholder n]
  | .isOneOf column ns => .name column :: Token.between " IN (" ")" (placeholders ns)
  | .isNoneOf column ns => .name column :: Token.between " NOT IN (" ")" (placeholders ns)
  | .like e n => e.tokens ++ [.word " LIKE ", .placeholder n]
  | .likeAnyCase e n => e.tokens ++ [.word " ILIKE ", .placeholder n]
  | .spatial relation column n =>
    [.word (relationName relation ++ "("), .name column, .word ", ST_GeomFromText(",
      .placeholder n, .word ", 4326))"]
  | .not p => .word "NOT " :: p.tokens
  | .all ps => Token.join " AND " (tokensList ps)
  | .any ps => Token.join " OR " (tokensList ps)
  | .parens p => Token.between "(" ")" p.tokens

def tokensList : List (Predicate Nat) → List (List Token)
  | [] => []
  | p :: rest => p.tokens :: tokensList rest

end

/-! ## Filters -/

/-- A predicate alone, or several as alternatives. -/
def anyOf : List (Predicate α) → Predicate α
  | [p] => p
  | ps => .parens (.any ps)

/-- Escapes the characters that a pattern reads specially. -/
def escapePattern (s : String) : String :=
  String.ofList (s.toList.flatMap fun c => if c = '\\' ∨ c = '%' ∨ c = '_' then ['\\', c] else [c])

/-- The pattern of the texts that contain a text. -/
def containing (s : String) : Scalar := .text ("%" ++ escapePattern s ++ "%")

/-- The predicate of one range. -/
def ofRange (field : String) (r : ValueRange) : Predicate Scalar :=
  .parens (.all [.compare (.column field) (.lower r.minInclusive) r.min,
    .compare (.column field) (.upper r.maxInclusive) r.max])

/-- The predicate of a condition. A missing value is none of any values and bears no relation to any
shape. -/
def ofCondition : Condition → Outcome (Predicate Scalar)
  | .oneOf field [value] => .ok (.equal (.column field) value)
  | .oneOf field values => .ok (.isOneOf field values)
  | .noneOf field values => .ok (.parens (.any [.isNull field, .isNoneOf field values]))
  | .compare field op value _ => .ok (.compare (.column field) op value)
  | .like field text => .ok (.like (.column field) (containing text))
  | .ranges field ranges _ => .ok (anyOf (ranges.map (ofRange field)))
  | .spatial field relation negated shape =>
    let test := .spatial relation field (.text (Wkt.write shape))
    .ok (if negated then .parens (.any [.isNull field, .not test]) else test)
  | .text (some field) text => .ok (.likeAnyCase (.cast (.column field) "TEXT") (containing text))
  | .text none text => refuse (.unscopedCondition text)

/-- The predicate of a group of alternatives. -/
def ofGroup (group : List Condition) : Outcome (Predicate Scalar) := do
  .ok (anyOf (← group.mapM ofCondition))

/-- The predicates of a filter, one for each group. -/
def ofFilter (filter : Filter) : Outcome (List (Predicate Scalar)) := filter.mapM ofGroup

/-! ## Keysets -/

/-- The comparison that comes after a value in the order of a key. -/
def afterOp (key : SortKey) : Comparison := if key.isDescending then .lt else .gt

/-- The branches of the rows after a row. Each branch agrees with the row in the keys before one and
comes after it in that one; the keys passed so far stand as `equals`. -/
def keysetBranches (centroidPath : String) (equals : List (Predicate Scalar)) :
    List (SortKey × Scalar) → List (Predicate Scalar)
  | [] => []
  | (key, value) :: rest =>
    let e := Expr.ofSortKey centroidPath key
    .parens (.all (equals ++ [.compare e (afterOp key) value])) ::
      keysetBranches centroidPath (equals ++ [.equal e value]) rest

/-- The rows that come after the row with the given values in the order of the keys. -/
def keyset (centroidPath : String) (keys : List (SortKey × Scalar)) : Predicate Scalar :=
  .parens (.any (keysetBranches centroidPath [] keys))

end Predicate

end GeoFacet.Sql
