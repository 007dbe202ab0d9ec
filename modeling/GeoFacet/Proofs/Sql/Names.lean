import GeoFacet.Proofs.Sql.Binding

/-!
# Names in the text of a statement

The names of tables and fields come from a configuration, and those of sort fields from a request,
so they may hold any character. A quoted name runs to the first quote mark that is not doubled
(`readName?`). What was written with `quote` is read back whole, whatever follows it but another
quote mark (`readName?_quote`), and no statement has a quote mark behind a name, since a name is
followed by a separator (`Token.Readable.readName?_eq`).

The names of a statement are said by its parts (`Query.names`): expressions by induction, then
predicates, clauses and the two forms of a query. They are all the names that its text is read with
(`Query.names_read`).

Main statement: `names_read_back`.
-/

namespace GeoFacet.Sql

/-! ## One name -/

/-- The rest of a quoted name and what follows it. Two quote marks stand for one, and any other ends
the name. -/
def nameRest? : List Char → Option (List Char × List Char)
  | [] => none
  | '"' :: '"' :: rest => (nameRest? rest).map fun read => ('"' :: read.1, read.2)
  | '"' :: rest => some ([], rest)
  | c :: rest => (nameRest? rest).map fun read => (c :: read.1, read.2)

/-- The quoted name that a text begins with, and what follows it. -/
def readName? (text : String) : Option (String × String) :=
  match text.toList with
  | '"' :: rest => (nameRest? rest).map fun read => (String.ofList read.1, String.ofList read.2)
  | _ => none

theorem nameRest?_quoted (name : List Char) {rest : List Char} (hrest : rest.head? ≠ some '"') :
    nameRest? (name.flatMap (fun c => if c = '"' then ['"', '"'] else [c]) ++ '"' :: rest) =
      some (name, rest) := by
  induction name with
  | nil =>
    cases rest with
    | nil => rfl
    | cons c rest =>
      have hc : c ≠ '"' := by simpa using hrest
      simp [nameRest?, hc]
  | cons c name ih =>
    by_cases hc : c = '"'
    · simp [hc, nameRest?, ih]
    · simp [hc, nameRest?, ih]

/-- **A quoted name is read back whole**, whatever follows it but a quote mark. -/
theorem readName?_quote (name rest : String) (hrest : rest.toList.head? ≠ some '"') :
    readName? (quote name ++ rest) = some (name, rest) := by
  have htext : (quote name ++ rest).toList =
      '"' :: (name.toList.flatMap (fun c => if c = '"' then ['"', '"'] else [c]) ++
        '"' :: rest.toList) := by
    simp [quote, quoteList]
  rw [readName?, htext]
  simp only [nameRest?_quoted name.toList hrest, Option.map_some, String.ofList_toList]

theorem injective_quote : Function.Injective quote := by
  intro name name' h
  have hread := readName?_quote name "" (by simp)
  rw [h, readName?_quote name' "" (by simp)] at hread
  cases hread
  rfl

/-! ## The names of a run -/

namespace Lexeme

def name? : Lexeme → Option String
  | .name s => some s
  | _ => none

/-- The names among some lexemes. -/
def names (ls : List Lexeme) : List String := ls.filterMap name?

end Lexeme

namespace Token

def name? : Token → Option String
  | .name s => some s
  | _ => none

/-- The names of a run. -/
def names (ts : List Token) : List String := ts.filterMap name?

@[simp] theorem names_nil : names [] = [] := rfl

@[simp] theorem names_word (s : String) (ts : List Token) : names (word s :: ts) = names ts := rfl

@[simp] theorem names_name (s : String) (ts : List Token) :
    names (name s :: ts) = s :: names ts := rfl

@[simp] theorem names_append (ts us : List Token) : names (ts ++ us) = names ts ++ names us :=
  List.filterMap_append

@[simp] theorem names_between (opening closing : String) (ts : List Token) :
    names (between opening closing ts) = names ts := by
  simp [between]

@[simp] theorem names_join (s : String) (tss : List (List Token)) :
    names (join s tss) = tss.flatMap names := filterMap_join (fun _ => rfl) s tss

/-- **The names that are read are those that were written.** -/
theorem names_textOf {ts : List Token} (h : Clean ts) :
    Lexeme.names (Lexeme.read (textOf ts)) = names ts := by
  refine (filterMap_textOf (fun l hl => ?_) h).trans (congrArg (List.filterMap · ts) ?_)
  · cases l <;> first | rfl | cases hl
  · funext t
    cases t <;> rfl

/-- No quote mark stands behind a name. -/
theorem Readable.head?_textOf {before behind : List Token} {s : String}
    (h : Readable (before ++ name s :: behind)) : (textOf behind).toList.head? ≠ some '"' := by
  cases behind with
  | nil => simp [textOf]
  | cons t behind =>
    have hchain : (name s :: t :: behind).IsChain Adjacent := (List.isChain_append.mp h.chain).2.1
    rcases hchain.rel with hcloses | hopens
    · cases hcloses
    · cases t with
      | name s' => cases hopens
      | placeholder n => cases hopens
      | word s' =>
        obtain ⟨c, hc, hseparator⟩ := (Option.any_eq_true _ _).mp hopens
        obtain ⟨cs, hcs⟩ := List.head?_eq_some_iff.mp hc
        rw [textOf, String.toList_append, text, hcs]
        intro hquote
        cases hquote
        cases hseparator

/-- **Each name of a run is read back where it stands.** -/
theorem Readable.readName?_eq {before behind : List Token} {s : String}
    (h : Readable (before ++ name s :: behind)) :
    textOf (before ++ name s :: behind) = textOf before ++ (quote s ++ textOf behind) ∧
      readName? (quote s ++ textOf behind) = some (s, textOf behind) :=
  ⟨textOf_append before (name s :: behind), readName?_quote s (textOf behind) h.head?_textOf⟩

end Token

/-! ## The names of expressions and predicates -/

namespace Expr

mutual

/-- The columns of an expression, in the order they are written in. -/
def names : Expr → List String
  | .column name => [name]
  | .star | .whole _ | .tenths _ | .double _ | .literal _ => []
  | .binary _ left right => left.names ++ right.names
  | .parens e | .distinct e | .cast e _ | .epoch e | .atUtc e => e.names
  | .call _ arguments => namesList arguments

def namesList : List Expr → List String
  | [] => []
  | e :: rest => e.names ++ namesList rest

end

mutual

/-- An expression is written with its columns for names. -/
theorem names_tokens : ∀ e : Expr, Token.names e.tokens = e.names
  | .column _ | .star | .whole _ | .tenths _ | .double _ | .literal _ => rfl
  | .binary op left right => by
    rw [tokens, Token.names_append, Token.names_word, names_tokens left, names_tokens right, names]
  | .parens e | .cast e _ | .epoch e => by
    rw [tokens, Token.names_between, names_tokens e, names]
  | .call function arguments => by
    rw [tokens, Token.names_between, Token.names_join, names_tokensList arguments, names]
  | .distinct e => by
    rw [tokens, Token.names_word, names_tokens e, names]
  | .atUtc e => by
    rw [tokens, Token.names_append, names_tokens e, names]
    exact List.append_nil _

theorem names_tokensList : ∀ es : List Expr, (tokensList es).flatMap Token.names = namesList es
  | [] => rfl
  | e :: rest => by
    rw [tokensList, List.flatMap_cons, names_tokens e, names_tokensList rest, namesList]

end

end Expr

namespace Predicate

section

variable {α : Type}

mutual

/-- The columns of a predicate, in the order they are written in. -/
def names : Predicate α → List String
  | .isNull c | .notNull c | .isOneOf c _ | .isNoneOf c _ | .spatial _ c _ => [c]
  | .equal e _ | .compare e _ _ | .like e _ | .likeAnyCase e _ => e.names
  | .not p | .parens p => p.names
  | .all ps | .any ps => namesList ps

def namesList : List (Predicate α) → List String
  | [] => []
  | p :: rest => p.names ++ namesList rest

end

mutual

theorem names_number : ∀ (p : Predicate α) (n : Nat), (p.number n).names = p.names
  | .isNull _, _ | .notNull _, _ | .equal _ _, _ | .compare _ _ _, _ | .isOneOf _ _, _
  | .isNoneOf _ _, _ | .like _ _, _ | .likeAnyCase _ _, _ | .spatial _ _ _, _ => rfl
  | .not p, n | .parens p, n => names_number p n
  | .all ps, n | .any ps, n => namesList_numberList ps n

theorem namesList_numberList :
    ∀ (ps : List (Predicate α)) (n : Nat), namesList (numberList n ps) = namesList ps
  | [], _ => rfl
  | p :: rest, n => by
    rw [numberList, namesList, names_number p n, namesList_numberList rest, namesList]

end

theorem namesList_append (ps qs : List (Predicate α)) :
    namesList (ps ++ qs) = namesList ps ++ namesList qs := by
  induction ps with
  | nil => rfl
  | cons p ps ih => rw [List.cons_append, namesList, ih, namesList, List.append_assoc]

end

theorem names_placeholders (ns : List Nat) : Token.names (placeholders ns) = [] := by
  rw [placeholders, Token.names_join, List.flatMap_map, List.flatMap_eq_nil_iff]
  exact fun _ _ => rfl

mutual

/-- A predicate is written with its columns for names. -/
theorem names_tokens : ∀ q : Predicate Nat, Token.names q.tokens = q.names
  | .isNull _ | .notNull _ | .spatial _ _ _ => rfl
  | .equal e _ | .compare e _ _ | .like e _ | .likeAnyCase e _ => by
    rw [tokens, Token.names_append, Expr.names_tokens e, names]
    exact List.append_nil _
  | .isOneOf c ns | .isNoneOf c ns => by
    rw [tokens, Token.names_name, Token.names_between, names_placeholders, names]
  | .not p => by
    rw [tokens, Token.names_word, names_tokens p, names]
  | .all ps | .any ps => by
    rw [tokens, Token.names_join, names_tokensList ps, names]
  | .parens p => by
    rw [tokens, Token.names_between, names_tokens p, names]

theorem names_tokensList :
    ∀ qs : List (Predicate Nat), (tokensList qs).flatMap Token.names = namesList qs
  | [] => rfl
  | q :: rest => by
    rw [tokensList, List.flatMap_cons, names_tokens q, names_tokensList rest, namesList]

end

end Predicate

/-! ## The names of statements -/

/-- The columns of a clause. -/
def Selection.names (s : Selection) : List String :=
  Predicate.namesList s.filter ++ Predicate.namesList s.further

theorem Selection.names_tokens (s : Selection) : Token.names s.tokens = s.names := by
  have hnumbered : Predicate.namesList s.numbered = s.names := by
    rw [numbered, Predicate.namesList_append, Predicate.namesList_numberList,
      Predicate.namesList_numberList, names]
  rw [tokens]
  split
  · rename_i hempty
    rw [← hnumbered, List.isEmpty_iff.mp hempty]
    rfl
  · rw [Token.names_word, Predicate.names_tokens, Predicate.names, hnumbered]

/-- The columns that a result column is computed from, and its own name. -/
def Column.names (c : Column) : List String := c.value.names ++ [c.name]

theorem Column.names_tokens (c : Column) : Token.names c.tokens = c.names := by
  rw [tokens, Token.names_append, Expr.names_tokens]
  rfl

theorem names_columnTokens (cs : List Column) :
    (cs.map Column.tokens).flatMap Token.names = cs.flatMap Column.names := by
  rw [List.flatMap_map]
  exact congrArg (List.flatMap · cs) (funext Column.names_tokens)

theorem names_orderTokens (keys : List (List Token × Order)) :
    Token.names (orderTokens keys) = keys.flatMap fun key => Token.names key.1 := by
  rw [orderTokens, Token.names_join, List.flatMap_map]
  refine congrArg (List.flatMap · keys) (funext fun key => ?_)
  rw [Token.names_append]
  exact List.append_nil _

theorem names_nameTokens (names : List String) : Token.names (nameTokens names) = names := by
  rw [nameTokens, Token.names_join, List.flatMap_map]
  exact List.flatMap_singleton' names

namespace RowQuery

/-- The names of a query of rows, in the order they are written in. -/
def names (q : RowQuery) : List String :=
  q.columns.flatMap Column.names ++ q.table :: q.selection.names ++
    q.order.flatMap fun key => key.1.names

theorem names_tokens (q : RowQuery) : Token.names q.tokens = q.names := by
  have horder : Token.names (orderTokens (q.order.map fun key => (key.1.tokens, key.2))) =
      q.order.flatMap fun key => key.1.names := by
    rw [names_orderTokens, List.flatMap_map]
    exact congrArg (List.flatMap · q.order) (funext fun key => Expr.names_tokens key.1)
  have hitems : ((if q.allColumns then [Expr.star.tokens] else []) ++
      q.columns.map Column.tokens).flatMap Token.names = q.columns.flatMap Column.names := by
    rw [List.flatMap_append, names_columnTokens]
    split <;> rfl
  have hlimit : Token.names (q.limit.map fun n => Token.word (" LIMIT " ++ toString n)).toList =
      [] := by
    cases q.limit <;> rfl
  have hordered : Token.names (if q.order.isEmpty then []
      else .word " ORDER BY " :: orderTokens (q.order.map fun key => (key.1.tokens, key.2))) =
        q.order.flatMap fun key => key.1.names := by
    split
    · rename_i hempty
      rw [List.isEmpty_iff.mp hempty]
      rfl
    · rw [Token.names_word, horder]
  have hoffset : Token.names
      (if 0 < q.offset then [.word (" OFFSET " ++ toString q.offset)] else []) = [] := by
    split <;> rfl
  -- Clauses without an expression have no names, so the columns, filter and order are left.
  rw [tokens]
  simp only [Token.names_append, Token.names_word, Token.names_name, Token.names_join, hitems,
    Selection.names_tokens, hlimit, hordered, hoffset, names, List.append_assoc, List.cons_append,
    List.nil_append, List.append_nil]

end RowQuery

namespace LevelQuery

/-- The names of the buckets without rank. -/
def groupedNames (q : LevelQuery) : List String :=
  (q.parents ++ [q.key] ++ q.columns).flatMap Column.names ++ q.table :: q.selection.names

/-- The names of a query of buckets, in the order they are written in: the buckets are ranked among
those with the same parents, the first ones are kept, and ordered by their parents. -/
def names (q : LevelQuery) : List String :=
  q.parents.map Column.name ++ q.rank.map Prod.fst ++ rankName :: q.groupedNames ++
    (if q.size.isSome then [rankName] else []) ++ (q.parents.map Column.name ++ [rankName])

theorem names_groupedTokens (q : LevelQuery) : Token.names q.groupedTokens = q.groupedNames := by
  have hpositions : Token.names (Token.join ", "
      ((List.range' 1 (q.parents ++ [q.key]).length).map fun i => [Token.word (toString i)])) =
        [] := by
    rw [Token.names_join, List.flatMap_map, List.flatMap_eq_nil_iff]
    exact fun _ _ => rfl
  have hcolumns (cs : List Column) :
      Token.names (Token.join ", " (cs.map Column.tokens)) = cs.flatMap Column.names := by
    rw [Token.names_join, names_columnTokens]
  rw [groupedTokens]
  simp only [Token.names_append, Token.names_word, Token.names_name, hcolumns,
    Selection.names_tokens, hpositions, groupedNames, List.append_assoc, List.cons_append,
    List.nil_append, List.append_nil]

theorem names_rankedTokens (q : LevelQuery) : Token.names q.rankedTokens =
    q.parents.map Column.name ++ q.rank.map Prod.fst ++ rankName :: q.groupedNames := by
  have hparts : Token.names (if (q.parents.map Column.name).isEmpty then []
      else Token.between "PARTITION BY " " " (nameTokens (q.parents.map Column.name))) =
        q.parents.map Column.name := by
    split
    · rename_i hempty
      rw [List.isEmpty_iff.mp hempty]
      rfl
    · rw [Token.names_between, names_nameTokens]
  have hrank : Token.names (orderTokens (q.rank.map fun key => ([.name key.1], key.2))) =
      q.rank.map Prod.fst := by
    rw [names_orderTokens, List.flatMap_map]
    exact (List.map_eq_flatMap).symm
  rw [rankedTokens]
  simp only [Token.names_append, Token.names_word, Token.names_name, Token.names_nil, hparts, hrank,
    names_groupedTokens, List.append_assoc, List.cons_append, List.nil_append, List.append_nil]

theorem names_tokens (q : LevelQuery) : Token.names q.tokens = q.names := by
  rw [tokens, names]
  cases q.size <;>
    simp [Token.names_append, names_rankedTokens, names_nameTokens]

end LevelQuery

namespace Query

/-- The names of a query, in the order they are written in. -/
def names : Query → List String
  | .rows q => q.names
  | .level q => q.names

theorem clean_tokens {q : Query} (h : q.Clean) : Token.Clean q.tokens := by
  cases q with
  | rows q => exact RowQuery.clean_tokens h
  | level q => exact LevelQuery.clean_tokens h

/-- **The names that are read from a query** are those of its parts. -/
theorem names_read {q : Query} (h : q.Clean) :
    Lexeme.names (Lexeme.read (Token.textOf q.tokens)) = q.names := by
  rw [Token.names_textOf (clean_tokens h)]
  cases q with
  | rows q => exact q.names_tokens
  | level q => exact q.names_tokens

end Query

/-! ## Statements of a draft -/

/-- **Names are read back as they are.** A quoted name that no quote mark follows is read back with
nothing lost of what follows it, so different names are quoted differently. The names that are read
from a statement, from its beginning to its end, are those of its parts: its table, the columns it
selects, compares and orders by, and the names of its result columns. Each of them is read back
where it stands. -/
theorem names_read_back :
    (∀ name rest : String, rest.toList.head? ≠ some '"' →
      readName? (quote name ++ rest) = some (name, rest)) ∧
      Function.Injective quote ∧
      ∀ (d : Draft) (plan : Plan), d.build = .ok plan → ∀ s ∈ plan.statements,
        Lexeme.names (Lexeme.read s.sql) = s.query.names ∧
        ∀ before name behind, s.query.tokens = before ++ .name name :: behind →
          s.sql = Token.textOf before ++ (quote name ++ Token.textOf behind) ∧
            readName? (quote name ++ Token.textOf behind) = some (name, Token.textOf behind) := by
  refine ⟨readName?_quote, injective_quote, ?_⟩
  intro d plan hplan s hs
  obtain ⟨filter, -, hstatements⟩ := Draft.statements_of_build hplan
  have hclean : s.query.Clean := (hstatements s hs).clean
  refine ⟨Query.names_read hclean, ?_⟩
  intro before name behind htokens
  have hreadable : Token.Readable s.query.tokens := (Query.clean_tokens hclean).toReadable
  rw [htokens] at hreadable
  rw [Statement.sql, htokens]
  exact hreadable.readName?_eq

/-- A page of a table, ordered by a field, both with quote marks in their names. -/
def hostilePage : Draft :=
  { Draft.start ⟨"boats", "boats\"\"; DROP", "id", "shape", "place\"", "seen", "epoch_millis", [], []⟩
    with sort := [.field "\" DESC, \"$1" .asc] }

theorem names_read_back_hostile : ∃ plan s, hostilePage.build = .ok plan ∧ s ∈ plan.statements ∧
    readName? (quote "\"a\"" ++ " DESC") = some ("\"a\"", " DESC") ∧
    quote "a\"" ≠ quote "\"a" ∧
    Lexeme.names (Lexeme.read s.sql) = ["shape", "_geometry", "place\"", "_centroid",
      "\" DESC, \"$1", "_sort_0", "boats\"\"; DROP", "\" DESC, \"$1"] ∧
    ∃ before behind, s.sql = before ++ (quote "boats\"\"; DROP" ++ behind) ∧
      readName? (quote "boats\"\"; DROP" ++ behind) = some ("boats\"\"; DROP", behind) := by
  obtain ⟨hname, hinjective, hstatements⟩ := names_read_back
  have hplan : hostilePage.build = .ok ⟨_, [_, hostilePage.hitsStatement []]⟩ := rfl
  obtain ⟨hnames, hplaces⟩ := hstatements _ _ hplan _ (.tail _ (.head _))
  have htable : .name "boats\"\"; DROP" ∈ (hostilePage.hitsStatement []).query.tokens := by decide
  obtain ⟨before, behind, htokens⟩ := List.append_of_mem htable
  exact ⟨_, _, hplan, .tail _ (.head _), hname _ _ (by decide), hinjective.ne (by decide), hnames,
    _, _, hplaces before _ behind htokens⟩

end GeoFacet.Sql
