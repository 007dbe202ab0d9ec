import GeoFacet.Sql.Column
import GeoFacet.Sql.Predicate

/-!
# Statements

A statement returns rows of a table, or the buckets of one level. The values that it compares with
are numbered and handed over beside its text.
-/

namespace GeoFacet.Sql

/-- The rows that a statement is about: every predicate must hold. The values of the further
predicates are numbered before those of the filter, in whose place they come last. -/
structure Selection where
  filter : List (Predicate Scalar)
  further : List (Predicate Scalar)
  deriving Inhabited

namespace Selection

/-- The values in the order of their numbers. -/
def params (s : Selection) : List Scalar :=
  Predicate.valuesList s.further ++ Predicate.valuesList s.filter

/-- The predicates in the order they are written in. -/
def numbered (s : Selection) : List (Predicate Nat) :=
  Predicate.numberList (1 + (Predicate.valuesList s.further).length) s.filter ++
    Predicate.numberList 1 s.further

/-- The clause, empty where all rows are meant. -/
def tokens (s : Selection) : List Token :=
  if s.numbered.isEmpty then [] else .word " WHERE " :: (Predicate.all s.numbered).tokens

end Selection

/-- Names or expressions with the order they go in. -/
def orderTokens (keys : List (List Token × Order)) : List Token :=
  Token.join ", " (keys.map fun (key, o) => key ++ [.word (" " ++ o.keyword)])

/-- Names between commas. -/
def nameTokens (names : List String) : List Token :=
  Token.join ", " (names.map fun n => [.name n])

/-- A statement that returns rows, or one row of values over them. -/
structure RowQuery where
  /-- whether all columns come before the named ones -/
  allColumns : Bool
  columns : List Column
  table : String
  selection : Selection
  order : List (Expr × Order)
  limit : Option Nat
  offset : Nat
  deriving Inhabited

namespace RowQuery

def tokens (q : RowQuery) : List Token :=
  let items := (if q.allColumns then [Expr.star.tokens] else []) ++ q.columns.map Column.tokens
  .word "SELECT " :: Token.join ", " items ++ [.word " FROM ", .name q.table] ++
    q.selection.tokens ++
    (if q.order.isEmpty then []
      else .word " ORDER BY " :: orderTokens (q.order.map fun (e, o) => (e.tokens, o))) ++
    (q.limit.map fun n => Token.word (" LIMIT " ++ toString n)).toList ++
    (if 0 < q.offset then [.word (" OFFSET " ++ toString q.offset)] else [])

end RowQuery

/-- The name of the column with the rank of a bucket among its siblings. -/
def rankName : String := "bucket_rank"

/-- A statement that returns the buckets of a level. It groups by the keys of the level and those
above it, ranks the buckets with the same parent, and keeps the first of each parent. The buckets
come in the order of their parents and then of their ranks. -/
structure LevelQuery where
  /-- the keys of the levels above -/
  parents : List Column
  key : Column
  columns : List Column
  table : String
  selection : Selection
  rank : List (String × Order)
  size : Option Nat
  deriving Inhabited

namespace LevelQuery

/-- The buckets without rank. -/
def groupedTokens (q : LevelQuery) : List Token :=
  let keys := q.parents ++ [q.key]
  let positions := (List.range' 1 keys.length).map fun i => [Token.word (toString i)]
  .word "SELECT " :: Token.join ", " ((keys ++ q.columns).map Column.tokens) ++
    [.word " FROM ", .name q.table] ++ q.selection.tokens ++
    .word " GROUP BY " :: Token.join ", " positions

/-- The buckets with their rank. -/
def rankedTokens (q : LevelQuery) : List Token :=
  let names := q.parents.map Column.name
  .word "SELECT grouped.*, ROW_NUMBER() OVER (" ::
    (if names.isEmpty then [] else Token.between "PARTITION BY " " " (nameTokens names)) ++
    .word "ORDER BY " :: orderTokens (q.rank.map fun (n, o) => ([.name n], o)) ++
    [.word ") AS ", .name rankName, .word " FROM ("] ++ q.groupedTokens ++ [.word ") AS grouped"]

def tokens (q : LevelQuery) : List Token :=
  Token.between "SELECT * FROM (" ") AS ranked" q.rankedTokens ++
    (match q.size with
      | some n => [.word " WHERE ", .name rankName, .word (" <= " ++ toString n)]
      | none => []) ++
    .word " ORDER BY " :: nameTokens (q.parents.map Column.name ++ [rankName])

end LevelQuery

/-- What the rows of a statement are for. -/
inductive Purpose where
  /-- the number of matching rows -/
  | count
  /-- the rows of a page -/
  | hits
  /-- the buckets at a depth -/
  | level (depth : Nat)
  /-- a computed value -/
  | computation
  deriving DecidableEq, Repr, Inhabited

namespace Purpose

def name : Purpose → String
  | count => "count"
  | hits => "hits"
  | level depth => "level_" ++ toString depth
  | computation => "computation"

end Purpose

/-- A query of one of the two forms. -/
inductive Query where
  | rows (q : RowQuery)
  | level (q : LevelQuery)
  deriving Inhabited

namespace Query

def tokens : Query → List Token
  | rows q => q.tokens
  | level q => q.tokens

def selection : Query → Selection
  | rows q => q.selection
  | level q => q.selection

end Query

/-- A query with its purpose. -/
structure Statement where
  purpose : Purpose
  query : Query
  deriving Inhabited

namespace Statement

/-- The text of a statement. -/
def sql (s : Statement) : String := Token.textOf s.query.tokens

/-- The values for the placeholders, the first one for `$1`. -/
def params (s : Statement) : List Scalar := s.query.selection.params

def toJson (s : Statement) : Json :=
  .ofMembers [
    ("purpose", .text s.purpose.name),
    ("sql", .text s.sql),
    ("params", .list (s.params.map Scalar.toJson))]

end Statement

end GeoFacet.Sql
