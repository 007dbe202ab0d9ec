/-!
# Statement text

A statement is a list of tokens: words that are written as they are, quoted names, and placeholders
for values. No value of a request is ever part of a word.
-/

namespace GeoFacet.Sql

/-- The characters of a name between double quotes, a quote inside written twice. -/
def quoteList (name : List Char) : List Char :=
  '"' :: name.flatMap (fun c => if c = '"' then ['"', '"'] else [c]) ++ ['"']

/-- A quoted name. -/
def quote (name : String) : String := String.ofList (quoteList name.toList)

/-- A part of a statement. -/
inductive Token where
  /-- keywords, numbers, operators and the space around them -/
  | word (text : String)
  /-- the name of a table or column -/
  | name (name : String)
  /-- the place of the value with that number, counted from one -/
  | placeholder (n : Nat)
  deriving DecidableEq, Repr, Inhabited

namespace Token

def text : Token → String
  | word s => s
  | name s => quote s
  | placeholder n => "$" ++ toString n

/-- The text of a run of tokens. -/
def textOf : List Token → String
  | [] => ""
  | t :: rest => t.text ++ textOf rest

/-- The runs one after another, a separator between them. -/
def join (separator : String) : List (List Token) → List Token
  | [] => []
  | [ts] => ts
  | ts :: rest => ts ++ word separator :: join separator rest

/-- A run between two words. -/
def between (opening closing : String) (ts : List Token) : List Token :=
  word opening :: ts ++ [word closing]

end Token

end GeoFacet.Sql
