import GeoFacet.Decimal.Layout
import GeoFacet.Sorting.Key
import GeoFacet.Sql.Token

/-!
# Column expressions

The expressions that statements select, group by and compare. An operand of an operator that binds
tighter stands in parentheses, so the text is read back as the expression.
-/

namespace GeoFacet.Sql

/-- An arithmetic operator. -/
inductive Arithmetic where
  | add | sub | mul | div
  deriving DecidableEq, Repr, Inhabited

namespace Arithmetic

def symbol : Arithmetic → String
  | add => "+"
  | sub => "-"
  | mul => "*"
  | div => "/"

end Arithmetic

/-- An expression over the columns of a row. -/
inductive Expr where
  | column (name : String)
  /-- all columns -/
  | star
  | whole (n : Nat)
  /-- a whole number with one place after the point -/
  | tenths (n : Nat)
  | double (x : Float)
  /-- a fixed text -/
  | literal (text : String)
  | binary (op : Arithmetic) (left right : Expr)
  | parens (e : Expr)
  | call (function : String) (arguments : List Expr)
  | distinct (e : Expr)
  | cast (e : Expr) (type : String)
  /-- the seconds from the epoch to an instant -/
  | epoch (e : Expr)
  /-- an instant as a local time of the prime meridian -/
  | atUtc (e : Expr)
  deriving Inhabited

namespace Expr

mutual

/-- The text of an expression. -/
def tokens : Expr → List Token
  | .column name => [.name name]
  | .star => [.word "*"]
  | .whole n => [.word (toString n)]
  | .tenths n => [.word (toString n ++ ".0")]
  | .double x => [.word (plainText x)]
  | .literal text => [.word ("'" ++ text ++ "'")]
  | .binary op left right =>
    left.tokens ++ .word (" " ++ op.symbol ++ " ") :: right.tokens
  | .parens e => Token.between "(" ")" e.tokens
  | .call function arguments =>
    Token.between (function ++ "(") ")" (Token.join ", " (tokensList arguments))
  | .distinct e => .word "DISTINCT " :: e.tokens
  | .cast e type => Token.between "CAST(" (" AS " ++ type ++ ")") e.tokens
  | .epoch e => Token.between "EXTRACT(EPOCH FROM " ")" e.tokens
  | .atUtc e => e.tokens ++ [.word " AT TIME ZONE 'UTC'"]

def tokensList : List Expr → List (List Token)
  | [] => []
  | e :: rest => e.tokens :: tokensList rest

end

/-- The expression that a sort key orders by. Distances are in meters from the centroid. -/
def ofSortKey (centroidPath : String) : SortKey → Expr
  | .field name _ => .column name
  | .distance lat lon _ =>
    .call "ST_Distance" [.cast (.column centroidPath) "geography",
      .cast (.call "ST_SetSRID" [.call "ST_MakePoint" [.double lon, .double lat], .whole 4326])
        "geography"]

end Expr

end GeoFacet.Sql
