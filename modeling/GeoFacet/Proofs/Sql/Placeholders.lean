import GeoFacet.Proofs.Sql.CleanText
import GeoFacet.Proofs.Sql.Truth
import GeoFacet.Sql.Plan

/-!
# Placeholders in the text of a statement

The placeholders that are read from a statement are the numbers of the values in its row clause, in
the order in which the clause names them (`Query.placeholders_read`). Each number from one on stands
there once (`Selection.perm_values_numbered`), and what it stands for is the value that the predicate
had in its place (`Selection.mapM_values_numbered`).
-/

namespace GeoFacet.Sql

open Token (Opening Closing Joining clean_name clean_word clean_placeholder clean_join)

/-! ## Predicates -/

namespace Predicate

section Expressions

variable {α : Type}

mutual

/-- The expressions of a predicate, beside plain columns. -/
def exprs : Predicate α → List Expr
  | .equal e _ | .compare e _ _ | .like e _ | .likeAnyCase e _ => [e]
  | .not p | .parens p => p.exprs
  | .all ps | .any ps => exprsList ps
  | _ => []

def exprsList : List (Predicate α) → List Expr
  | [] => []
  | p :: rest => p.exprs ++ exprsList rest

end

mutual

theorem exprs_number : ∀ (p : Predicate α) (n : Nat), (p.number n).exprs = p.exprs
  | .isNull _, _ | .notNull _, _ | .equal _ _, _ | .compare _ _ _, _ | .isOneOf _ _, _
  | .isNoneOf _ _, _ | .like _ _, _ | .likeAnyCase _ _, _ | .spatial _ _ _, _ => rfl
  | .not p, n | .parens p, n => exprs_number p n
  | .all ps, n | .any ps, n => exprsList_numberList ps n

theorem exprsList_numberList :
    ∀ (ps : List (Predicate α)) (n : Nat), exprsList (numberList n ps) = exprsList ps
  | [], _ => rfl
  | p :: rest, n => by
    rw [numberList, exprsList, exprs_number p n, exprsList_numberList rest, exprsList]

end

mutual

/-- **Values are numbered in the order they are written in.** -/
theorem values_number : ∀ (p : Predicate α) (n : Nat),
    (p.number n).values = List.range' n p.values.length
  | .isNull _, _ | .notNull _, _ | .equal _ _, _ | .compare _ _ _, _ | .isOneOf _ _, _
  | .isNoneOf _ _, _ | .like _ _, _ | .likeAnyCase _ _, _ | .spatial _ _ _, _ => rfl
  | .not p, n | .parens p, n => values_number p n
  | .all ps, n | .any ps, n => valuesList_numberList ps n

theorem valuesList_numberList : ∀ (ps : List (Predicate α)) (n : Nat),
    valuesList (numberList n ps) = List.range' n (valuesList ps).length
  | [], _ => rfl
  | p :: rest, n => by
    rw [numberList, valuesList, values_number p n, valuesList_numberList rest, valuesList,
      List.length_append, List.range'_append_1]

end

theorem exprsList_append (ps qs : List (Predicate α)) :
    exprsList (ps ++ qs) = exprsList ps ++ exprsList qs := by
  induction ps with
  | nil => rfl
  | cons p ps ih => rw [List.cons_append, exprsList, ih, exprsList, List.append_assoc]

theorem mem_exprsList {ps : List (Predicate α)} {e : Expr} :
    e ∈ exprsList ps ↔ ∃ p ∈ ps, e ∈ p.exprs := by
  induction ps with
  | nil => simp [exprsList]
  | cons p ps ih => simp [exprsList, ih]

theorem valuesList_append (ps qs : List (Predicate α)) :
    valuesList (ps ++ qs) = valuesList ps ++ valuesList qs := by
  induction ps with
  | nil => rfl
  | cons p ps ih => rw [List.cons_append, valuesList, ih, valuesList, List.append_assoc]

theorem fillList?_append (params : List α) (ps qs : List (Predicate Nat)) :
    fillList? params (ps ++ qs) = (fillList? params ps).bind fun filled =>
      (fillList? params qs).map (filled ++ ·) := by
  induction ps with
  | nil => simp [fillList?]
  | cons p ps ih =>
    rw [List.cons_append, fillList?, ih, fillList?]
    cases p.fill? params <;> cases fillList? params ps <;> cases fillList? params qs <;> rfl

end Expressions

theorem numbers_placeholders (ns : List Nat) : Token.numbers (placeholders ns) = ns := by
  rw [placeholders, Token.numbers_join, List.flatMap_map]
  exact List.flatMap_singleton' ns

mutual

/-- A predicate is written with its numbers for placeholders. -/
theorem numbers_tokens : ∀ q : Predicate Nat, Token.numbers q.tokens = q.values
  | .isNull _ | .notNull _ => rfl
  | .equal e n | .compare e _ n | .like e n | .likeAnyCase e n => by
    rw [tokens, Token.numbers_append, Expr.numbers_tokens e]
    rfl
  | .isOneOf _ ns | .isNoneOf _ ns => by
    rw [tokens, Token.numbers_name, Token.numbers_between, numbers_placeholders]
    rfl
  | .spatial _ _ _ => rfl
  | .not p => by
    rw [tokens, Token.numbers_word, numbers_tokens p]
    rfl
  | .all ps | .any ps => by
    rw [tokens, Token.numbers_join, numbers_tokensList ps]
    rfl
  | .parens p => by
    rw [tokens, Token.numbers_between, numbers_tokens p]
    rfl

theorem numbers_tokensList :
    ∀ qs : List (Predicate Nat), (tokensList qs).flatMap Token.numbers = valuesList qs
  | [] => rfl
  | q :: rest => by
    rw [tokensList, List.flatMap_cons, numbers_tokens q, numbers_tokensList rest]
    rfl

end

theorem clean_placeholders (ns : List Nat) : Token.Clean (placeholders ns) := by
  refine clean_join (by decide) fun ts hts => ?_
  obtain ⟨n, -, rfl⟩ := List.mem_map.mp hts
  exact clean_placeholder n

/-- A value behind an expression and an operator. -/
theorem clean_operator {e : Expr} (he : e.Clean) {s : String} (hs : Joining s) (n : Nat) :
    Token.Clean (e.tokens ++ [.word s, .placeholder n]) :=
  (Expr.clean_tokens he).join (clean_placeholder n) hs

theorem joining_comparison (op : Comparison) : Joining (" " ++ op.symbol ++ " ") := by
  cases op <;> decide

theorem opening_relation (relation : SpatialRelation) : Opening (relationName relation ++ "(") := by
  cases relation <;> decide

mutual

/-- **A predicate over clean expressions is written as a clean run.** -/
theorem clean_tokens : ∀ {q : Predicate Nat}, (∀ e ∈ q.exprs, e.Clean) → Token.Clean q.tokens
  | .isNull c, _ | .notNull c, _ => (clean_name c).concat (by decide)
  | .equal e n, h => clean_operator (h e List.mem_cons_self) (by decide) n
  | .compare e op n, h => clean_operator (h e List.mem_cons_self) (joining_comparison op) n
  | .like e n, h => clean_operator (h e List.mem_cons_self) (by decide) n
  | .likeAnyCase e n, h => clean_operator (h e List.mem_cons_self) (by decide) n
  | .isOneOf c ns, _ | .isNoneOf c ns, _ =>
    ((clean_name c).join (clean_placeholders ns) (by decide)).concat (by decide)
  | .spatial relation c n, _ =>
    (((clean_name c).join (clean_placeholder n) (by decide)).cons
      (opening_relation relation)).concat (by decide)
  | .not p, h => (clean_tokens (q := p) h).cons (by decide)
  | .all ps, h => clean_join (by decide) (clean_tokensList h)
  | .any ps, h => clean_join (by decide) (clean_tokensList h)
  | .parens p, h => (clean_tokens (q := p) h).between (by decide) (by decide)

theorem clean_tokensList : ∀ {qs : List (Predicate Nat)}, (∀ e ∈ exprsList qs, e.Clean) →
    ∀ ts ∈ tokensList qs, Token.Clean ts
  | [], _, _, hts => nomatch hts
  | q :: rest, h, ts, hts => by
    rcases List.mem_cons.mp hts with rfl | hts
    · exact clean_tokens fun e he => h e (List.mem_append_left _ he)
    · exact clean_tokensList (fun e he => h e (List.mem_append_right _ he)) ts hts

end

end Predicate

/-! ## Row clauses -/

namespace Selection

/-- The predicates of a selection are over clean expressions. -/
def Clean (s : Selection) : Prop :=
  ∀ e ∈ Predicate.exprsList s.filter ++ Predicate.exprsList s.further, e.Clean

/-- The filter is written first, with the numbers behind those of the further predicates. -/
theorem values_numbered (s : Selection) : Predicate.valuesList s.numbered =
    List.range' (1 + (Predicate.valuesList s.further).length) (Predicate.valuesList s.filter).length
      ++ List.range' 1 (Predicate.valuesList s.further).length := by
  rw [numbered, Predicate.valuesList_append, Predicate.valuesList_numberList,
    Predicate.valuesList_numberList]

/-- **Every parameter has one placeholder**, and there are no others. -/
theorem perm_values_numbered (s : Selection) :
    (Predicate.valuesList s.numbered).Perm (List.range' 1 s.params.length) := by
  rw [values_numbered, params, List.length_append, ← List.range'_append_1]
  exact List.perm_append_comm

/-- **The placeholders stand for the values**, in the order they are written in. -/
theorem mapM_values_numbered (s : Selection) :
    (Predicate.valuesList s.numbered).mapM (Predicate.param? s.params) =
      some (Predicate.valuesList s.filter ++ Predicate.valuesList s.further) := by
  have hfilter := Predicate.mapM_param? (Predicate.valuesList s.further)
    (Predicate.valuesList s.filter) []
  have hfurther : (List.range' 1 (Predicate.valuesList s.further).length).mapM
      (Predicate.param? s.params) = some (Predicate.valuesList s.further) :=
    Predicate.mapM_param? [] (Predicate.valuesList s.further) (Predicate.valuesList s.filter)
  rw [List.append_nil, Nat.add_comm] at hfilter
  rw [values_numbered, List.mapM_append, hfurther, params, hfilter]
  rfl

/-- Filling in the parameters gives the predicates back. -/
theorem fillList?_numbered (s : Selection) :
    Predicate.fillList? s.params s.numbered = some (s.filter ++ s.further) := by
  have hfurther : Predicate.fillList? s.params (Predicate.numberList 1 s.further) =
      some s.further :=
    Predicate.fillList?_numberList [] (Predicate.valuesList s.filter) s.further
  rw [numbered, Predicate.fillList?_append, fillList?_filter, hfurther]
  rfl

theorem numbers_tokens (s : Selection) :
    Token.numbers s.tokens = Predicate.valuesList s.numbered := by
  rw [tokens]
  split
  · rename_i hempty
    rw [List.isEmpty_iff.mp hempty]
    rfl
  · rw [Token.numbers_word, Predicate.numbers_tokens]
    rfl

/-- A clause may stand behind any clean run. -/
theorem Clean.append {s : Selection} (h : s.Clean) {ts : List Token} (hts : Token.Clean ts) :
    Token.Clean (ts ++ s.tokens) := by
  rw [tokens]
  split
  · rwa [List.append_nil]
  · refine hts.join (Predicate.clean_tokens fun e he => h e ?_) (by decide)
    rw [Predicate.exprs, numbered, Predicate.exprsList_append, Predicate.exprsList_numberList,
      Predicate.exprsList_numberList] at he
    exact he

end Selection

/-! ## Statements -/

namespace Column

theorem numbers_tokens (c : Column) : Token.numbers c.tokens = [] := by
  rw [tokens, Token.numbers_append, Expr.numbers_tokens]
  rfl

theorem clean_tokens {c : Column} (h : c.value.Clean) : Token.Clean c.tokens :=
  (Expr.clean_tokens h).join (clean_name c.name) (by decide)

end Column

theorem closing_keyword (o : Order) : Closing (" " ++ o.keyword) := by
  cases o <;> decide

theorem numbers_orderTokens {α : Type} {f : α → List Token × Order}
    (h : ∀ a, Token.numbers (f a).1 = []) (as : List α) :
    Token.numbers (orderTokens (as.map f)) = [] := by
  rw [orderTokens, List.map_map]
  refine Token.numbers_join_eq_nil (fun a => ?_) ", " as
  show Token.numbers ((f a).1 ++ _) = _
  rw [Token.numbers_append, h]
  rfl

theorem clean_orderTokens {keys : List (List Token × Order)}
    (h : ∀ key ∈ keys, Token.Clean key.1) : Token.Clean (orderTokens keys) := by
  refine clean_join (by decide) fun ts hts => ?_
  obtain ⟨key, hkey, rfl⟩ := List.mem_map.mp hts
  exact (h key hkey).concat (closing_keyword key.2)

theorem numbers_nameTokens (names : List String) : Token.numbers (nameTokens names) = [] :=
  Token.numbers_join_eq_nil (fun _ => rfl) ", " names

theorem clean_nameTokens (names : List String) : Token.Clean (nameTokens names) := by
  refine clean_join (by decide) fun ts hts => ?_
  obtain ⟨name, -, rfl⟩ := List.mem_map.mp hts
  exact clean_name name

namespace RowQuery

/-- The expressions of a query are clean. -/
structure Clean (q : RowQuery) : Prop where
  columns : ∀ c ∈ q.columns, c.value.Clean
  selection : q.selection.Clean
  order : ∀ key ∈ q.order, key.1.Clean

theorem numbers_tokens (q : RowQuery) :
    Token.numbers q.tokens = Predicate.valuesList q.selection.numbered := by
  have hall : Token.numbers (Token.join ", "
      ((if q.allColumns then [Expr.star.tokens] else []) ++ q.columns.map Column.tokens)) = [] := by
    have hcolumns := Token.numbers_join_eq_nil Column.numbers_tokens ", " q.columns
    rw [Token.numbers_join] at hcolumns
    rw [Token.numbers_join, List.flatMap_append, hcolumns]
    split <;> rfl
  have horder : Token.numbers (orderTokens (q.order.map fun key => (key.1.tokens, key.2))) = [] :=
    numbers_orderTokens (fun key => Expr.numbers_tokens key.1) q.order
  have hlimit : Token.numbers (q.limit.map fun n => Token.word (" LIMIT " ++ toString n)).toList =
      [] := by
    cases q.limit <;> rfl
  rw [tokens]
  simp only [Token.numbers_append, Token.numbers_word, Token.numbers_name, Token.numbers_nil, hall,
    hlimit, Selection.numbers_tokens, List.nil_append, List.append_nil]
  split <;> split <;> simp [horder]

theorem clean_tokens {q : RowQuery} (h : q.Clean) : Token.Clean q.tokens := by
  have hitems : Token.Clean (Token.join ", "
      ((if q.allColumns then [Expr.star.tokens] else []) ++ q.columns.map Column.tokens)) := by
    refine clean_join (by decide) fun ts hts => ?_
    rcases List.mem_append.mp hts with hts | hts
    · split at hts
      · rw [List.mem_singleton.mp hts]
        exact Expr.clean_tokens trivial
      · cases hts
    · obtain ⟨c, hc, rfl⟩ := List.mem_map.mp hts
      exact Column.clean_tokens (h.columns c hc)
  have hfrom := h.selection.append ((hitems.cons (s := "SELECT ") (by decide)).join
    (clean_name q.table) (s := " FROM ") (by decide))
  have horder : Token.Clean (orderTokens (q.order.map fun key => (key.1.tokens, key.2))) := by
    refine clean_orderTokens fun key hkey => ?_
    obtain ⟨⟨e, o⟩, he, rfl⟩ := List.mem_map.mp hkey
    exact Expr.clean_tokens (h.order (e, o) he)
  have hordered := hfrom.append_unless (p := q.order.isEmpty) (hfrom.join horder (s := " ORDER BY ")
    (by decide))
  have hlimited := hordered.append_toList (s := fun n => " LIMIT " ++ toString n)
    (fun n => Token.closing_append (by decide) (fixed_toString n)) q.limit
  exact hlimited.append_if
    (hlimited.concat (Token.closing_append (by decide) (fixed_toString q.offset)))

end RowQuery

namespace LevelQuery

/-- The expressions of a query are clean. -/
structure Clean (q : LevelQuery) : Prop where
  columns : ∀ c ∈ q.parents ++ [q.key] ++ q.columns, c.value.Clean
  selection : q.selection.Clean

theorem numbers_groupedTokens (q : LevelQuery) :
    Token.numbers q.groupedTokens = Predicate.valuesList q.selection.numbered := by
  have hpositions := Token.numbers_join_eq_nil
    (f := fun i : Nat => [Token.word (toString i)]) (fun _ => rfl) ", "
  simp only [groupedTokens, Token.numbers_append, Token.numbers_word, Token.numbers_name,
    Token.numbers_nil, Token.numbers_join_eq_nil Column.numbers_tokens, Selection.numbers_tokens,
    hpositions, List.nil_append, List.append_nil]

theorem numbers_tokens (q : LevelQuery) :
    Token.numbers q.tokens = Predicate.valuesList q.selection.numbered := by
  have hranked : Token.numbers q.rankedTokens = Predicate.valuesList q.selection.numbered := by
    have hrank : Token.numbers (orderTokens (q.rank.map fun key => ([.name key.1], key.2))) = [] :=
      numbers_orderTokens (fun _ => rfl) q.rank
    rw [rankedTokens]
    split <;> simp [hrank, numbers_nameTokens, numbers_groupedTokens]
  rw [tokens]
  cases q.size <;> simp [hranked, numbers_nameTokens]

theorem clean_groupedTokens {q : LevelQuery} (h : q.Clean) : Token.Clean q.groupedTokens := by
  have hcolumns : Token.Clean
      (Token.join ", " ((q.parents ++ [q.key] ++ q.columns).map Column.tokens)) := by
    refine clean_join (by decide) fun ts hts => ?_
    obtain ⟨c, hc, rfl⟩ := List.mem_map.mp hts
    exact Column.clean_tokens (h.columns c hc)
  have hpositions : Token.Clean (Token.join ", "
      ((List.range' 1 (q.parents ++ [q.key]).length).map fun i => [Token.word (toString i)])) := by
    refine clean_join (by decide) fun ts hts => ?_
    obtain ⟨i, -, rfl⟩ := List.mem_map.mp hts
    exact clean_word (fixed_toString i)
  have hfrom := h.selection.append ((hcolumns.cons (s := "SELECT ") (by decide)).join
    (clean_name q.table) (s := " FROM ") (by decide))
  exact hfrom.join hpositions (by decide)

theorem clean_rankedTokens {q : LevelQuery} (h : q.Clean) : Token.Clean q.rankedTokens := by
  have hrank : Token.Clean (orderTokens (q.rank.map fun key => ([.name key.1], key.2))) := by
    refine clean_orderTokens fun key hkey => ?_
    obtain ⟨⟨n, o⟩, -, rfl⟩ := List.mem_map.mp hkey
    exact clean_name n
  have hwindow : Token.Clean ((if (q.parents.map Column.name).isEmpty then []
      else Token.between "PARTITION BY " " " (nameTokens (q.parents.map Column.name))) ++
        .word "ORDER BY " :: orderTokens (q.rank.map fun key => ([.name key.1], key.2))) := by
    have horder := hrank.cons (s := "ORDER BY ") (by decide)
    split
    · exact horder
    · have hparts := ((clean_nameTokens (q.parents.map Column.name)).join horder (s := " ")
        (by decide)).cons (s := "PARTITION BY ") (by decide)
      simpa [Token.between] using hparts
  have hgrouped := ((clean_name rankName).join (clean_groupedTokens h) (s := " FROM (")
    (by decide)).concat (s := ") AS grouped") (by decide)
  have hranked := (hwindow.cons (s := "SELECT grouped.*, ROW_NUMBER() OVER (") (by decide)).join
    hgrouped (s := ") AS ") (by decide)
  simpa [rankedTokens] using hranked

theorem clean_tokens {q : LevelQuery} (h : q.Clean) : Token.Clean q.tokens := by
  have hranked : Token.Clean (Token.between "SELECT * FROM (" ") AS ranked" q.rankedTokens) :=
    (clean_rankedTokens h).between (by decide) (by decide)
  have hlast := clean_nameTokens (q.parents.map Column.name ++ [rankName])
  rw [tokens]
  cases q.size with
  | none =>
    rw [List.append_nil]
    exact hranked.join hlast (by decide)
  | some n =>
    have hsize := ((clean_name rankName).concat (s := " <= " ++ toString n)
      (Token.closing_append (by decide) (fixed_toString n)))
    exact (hranked.join hsize (s := " WHERE ") (by decide)).join hlast (by decide)

end LevelQuery

namespace Query

/-- The expressions of a query are clean. -/
def Clean : Query → Prop
  | .rows q => q.Clean
  | .level q => q.Clean

/-- **The placeholders that are read from a query** are the numbers of its row clause. -/
theorem placeholders_read {q : Query} (h : q.Clean) :
    Lexeme.placeholders (Lexeme.read (Token.textOf q.tokens)) =
      Predicate.valuesList q.selection.numbered := by
  cases q with
  | rows q => exact (Token.placeholders_textOf (RowQuery.clean_tokens h)).trans q.numbers_tokens
  | level q => exact (Token.placeholders_textOf (LevelQuery.clean_tokens h)).trans q.numbers_tokens

end Query

/-! ## Totals -/

theorem clean_countColumn (name : String) : (countColumn name).value.Clean := by
  simp only [countColumn, Expr.Clean, Expr.CleanList]
  decide

/-- A statement of totals is clean if its filter and its columns are. -/
theorem Draft.clean_totals (c : Collection) {filter : List (Predicate Scalar)}
    (hfilter : ∀ e ∈ Predicate.exprsList filter, e.Clean) {columns : List Column}
    (hcolumns : ∀ column ∈ columns, column.value.Clean) : (totals c filter columns).Clean where
  columns := by
    intro column hcolumn
    rcases List.mem_cons.mp hcolumn with rfl | hcolumn
    · exact clean_countColumn totalName
    · exact hcolumns column hcolumn
  selection := by
    intro e he
    rw [Predicate.exprsList, List.append_nil] at he
    exact hfilter e he
  order := by simp

end GeoFacet.Sql
