import GeoFacet.Proofs.Sql.WellFormed

/-!
# The clauses of a page

The text of a page is split where one of its clauses begins, and a clause where its members end, both
outside of parentheses only. So the members of the row clause and the expressions that the page is
ordered by, each with its direction, are read from the text (`pageClauses?`), and they are those that
the page was written with: `pageClauses?_hitsStatement`.

The text of a keyset compares expressions, which a row has values for by their lexemes. It is
evaluated to what the keyset says: `clause?_keyset`.
-/

namespace GeoFacet.Sql

namespace Lexeme

/-! ## Splitting outside of parentheses -/

/-- The number of open parentheses behind a lexeme. -/
def depthAfter (depth : Nat) (l : Lexeme) : Nat :=
  if l = .symbol "(" then depth + 1 else if l = .symbol ")" then depth - 1 else depth

/-- Puts lexemes before the first part. -/
def prepend (ls : List Lexeme) : List (List Lexeme) → List (List Lexeme)
  | [] => [ls]
  | part :: parts => (ls ++ part) :: parts

/-- The parts of some lexemes. Each but the first begins with a lexeme outside of parentheses that
starts a part. -/
def splitFrom (starts : Lexeme → Bool) : Nat → List Lexeme → List (List Lexeme)
  | _, [] => [[]]
  | depth, l :: ls =>
    let parts := prepend [l] (splitFrom starts (depthAfter depth l) ls)
    if depth = 0 ∧ starts l then [] :: parts else parts

/-- The parts between the separators outside of parentheses. -/
def members (separator : Lexeme) (ls : List Lexeme) : List (List Lexeme) :=
  match splitFrom (· = separator) 0 ls with
  | [] => []
  | first :: rest => first :: rest.map List.tail

theorem splitFrom_ne_nil (starts : Lexeme → Bool) (depth : Nat) (ls : List Lexeme) :
    ∃ first rest, splitFrom starts depth ls = first :: rest := by
  cases ls with
  | nil => exact ⟨[], [], rfl⟩
  | cons l ls =>
    rw [splitFrom]
    split
    · exact ⟨_, _, rfl⟩
    · cases splitFrom starts (depthAfter depth l) ls with
      | nil => exact ⟨_, _, rfl⟩
      | cons part parts => exact ⟨_, _, rfl⟩

theorem prepend_prepend (ls ms : List Lexeme) (parts : List (List Lexeme)) :
    prepend ls (prepend ms parts) = prepend (ls ++ ms) parts := by
  cases parts with
  | nil => rfl
  | cons part parts => simp [prepend]

/-- Lexemes whose parentheses match, with what stands outside of them as `p` says. -/
inductive Outside : (Lexeme → Prop) → List Lexeme → Prop
  | nil {p : Lexeme → Prop} : Outside p []
  | cons {p : Lexeme → Prop} {l : Lexeme} {ls : List Lexeme} (hl : p l)
      (hopen : l ≠ .symbol "(") (hclose : l ≠ .symbol ")") (h : Outside p ls) :
      Outside p (l :: ls)
  | parens {p : Lexeme → Prop} {inner rest : List Lexeme} (hinner : Outside (fun _ => True) inner)
      (h : Outside p rest) : Outside p (.symbol "(" :: (inner ++ .symbol ")" :: rest))

/-- Lexemes whose parentheses match. -/
abbrev Balanced (ls : List Lexeme) : Prop := Outside (fun _ => True) ls

section Outside

variable {p q : Lexeme → Prop} {ls ms : List Lexeme} {starts : Lexeme → Bool}

theorem Outside.mono (hpq : ∀ l, p l → q l) (h : Outside p ls) : Outside q ls := by
  induction h with
  | nil => exact .nil
  | cons hl hopen hclose _ ih => exact .cons (hpq _ hl) hopen hclose (ih hpq)
  | parens hinner _ _ ih => exact .parens hinner (ih hpq)

theorem Outside.balanced (h : Outside p ls) : Balanced ls := h.mono fun _ _ => trivial

theorem Outside.append (hl : Outside p ls) (hm : Outside p ms) : Outside p (ls ++ ms) := by
  induction hl with
  | nil => exact hm
  | cons hl hopen hclose _ ih => exact .cons hl hopen hclose (ih hm)
  | parens hinner _ _ ih =>
    rw [List.cons_append, List.append_assoc, List.cons_append]
    exact .parens hinner (ih hm)

theorem Outside.of_forall (h : ∀ l ∈ ls, p l ∧ l ≠ .symbol "(" ∧ l ≠ .symbol ")") :
    Outside p ls := by
  induction ls with
  | nil => exact .nil
  | cons l ls ih =>
    obtain ⟨⟨hl, hopen, hclose⟩, hrest⟩ := List.forall_mem_cons.mp h
    exact .cons hl hopen hclose (ih hrest)

/-- A call of a function with balanced arguments. -/
theorem Outside.call {f : String} (hf : p (.word f)) (h : Balanced ls) :
    Outside p (.word f :: .symbol "(" :: (ls ++ [.symbol ")"])) :=
  .cons hf (by simp) (by simp) (.parens h .nil)

/-- **No part starts inside of lexemes** none of which starts one, at any depth. -/
theorem Outside.splitFrom_append (h : Outside p ls) {depth : Nat}
    (hstarts : depth = 0 → ∀ l, p l ∨ l = .symbol "(" → starts l = false) (rest : List Lexeme) :
    splitFrom starts depth (ls ++ rest) = prepend ls (splitFrom starts depth rest) := by
  induction h generalizing depth rest with
  | nil =>
    obtain ⟨first, more, hsplit⟩ := splitFrom_ne_nil starts depth rest
    rw [List.nil_append, hsplit]
    rfl
  | @cons p l ls hl hopen hclose _ ih =>
    have hstart : ¬(depth = 0 ∧ starts l = true) := by
      rintro ⟨hdepth, hl'⟩
      rw [hstarts hdepth l (.inl hl)] at hl'
      cases hl'
    have hdepth : depthAfter depth l = depth := by rw [depthAfter, if_neg hopen, if_neg hclose]
    rw [List.cons_append, splitFrom, if_neg hstart, hdepth, ih hstarts, prepend_prepend]
    rfl
  | @parens p inner rest' _ _ ihinner ih =>
    have hopen : ¬(depth = 0 ∧ starts (.symbol "(") = true) := by
      rintro ⟨hdepth, hl⟩
      rw [hstarts hdepth _ (.inr rfl)] at hl
      cases hl
    -- The closing parenthesis is still inside, so no part starts there either.
    have hclose : ¬(depth + 1 = 0 ∧ starts (.symbol ")") = true) := by simp
    have hinside : splitFrom starts (depth + 1) (inner ++ .symbol ")" :: (rest' ++ rest)) =
        prepend inner (splitFrom starts (depth + 1) (.symbol ")" :: (rest' ++ rest))) :=
      ihinner (by simp) _
    have hbehind : depthAfter (depth + 1) (.symbol ")") = depth := rfl
    have hbefore : depthAfter depth (.symbol "(") = depth + 1 := rfl
    rw [List.cons_append, List.append_assoc, List.cons_append, splitFrom, if_neg hopen, hbefore,
      hinside, splitFrom, if_neg hclose, hbehind, ih hstarts, prepend_prepend, prepend_prepend,
      prepend_prepend]
    simp

/-- A part ends where another one starts. -/
theorem Outside.splitFrom_start (h : Outside p ls)
    (hstarts : ∀ l, p l ∨ l = .symbol "(" → starts l = false) {l : Lexeme} (hl : starts l = true)
    (hclose : l ≠ .symbol ")") (rest : List Lexeme) :
    splitFrom starts 0 (ls ++ l :: rest) = ls :: prepend [l] (splitFrom starts 0 rest) := by
  have hopen : l ≠ .symbol "(" := by
    rintro rfl
    rw [hstarts _ (.inr rfl)] at hl
    cases hl
  have hdepth : depthAfter 0 l = 0 := by rw [depthAfter, if_neg hopen, if_neg hclose]
  rw [h.splitFrom_append (fun _ => hstarts), splitFrom, if_pos ⟨rfl, hl⟩, hdepth]
  show (ls ++ []) :: _ = _
  rw [List.append_nil]

end Outside

end Lexeme

/-! ## The reader -/

/-- The clauses of the text of a page. -/
structure PageClauses where
  /-- the members of the row clause -/
  conditions : List (List Lexeme)
  /-- the expressions that rows are ordered by, with their directions -/
  order : List (List Lexeme × Order)

/-- Whether a lexeme begins a clause behind the selected columns. -/
def startsClause (l : Lexeme) : Bool := l = .word "WHERE" || l = .word "ORDER" || l = .word "LIMIT"

/-- An expression with the direction behind it. -/
def orderKey? (ls : List Lexeme) : Option (List Lexeme × Order) :=
  match ls.getLast? with
  | some (.word "ASC") => some (ls.dropLast, .asc)
  | some (.word "DESC") => some (ls.dropLast, .desc)
  | _ => none

/-- The clauses of the text of a page with a row clause, an order and a limit. -/
def pageClauses? (sql : String) : Option PageClauses :=
  match Lexeme.splitFrom startsClause 0 (Lexeme.read sql) with
  | _ :: (.word "WHERE" :: conditions) :: (.word "ORDER" :: .word "BY" :: keys) ::
      (.word "LIMIT" :: _) :: _ =>
    ((Lexeme.members (.symbol ",") keys).mapM orderKey?).map fun order =>
      ⟨Lexeme.members (.word "AND") conditions, order⟩
  | _ => none

/-- The truth of a comparison, for a row that has values for expressions by their lexemes. -/
def Clause.compared? {V : Type} (tests : Tests V) (row : List Lexeme → Option V)
    (params : List Scalar) (ls : List Lexeme) : Option Truth :=
  match ls.reverse with
  | .placeholder n :: .symbol s :: e => do
    let v ← Predicate.param? params n
    if s = "=" then some ((row e.reverse).map (tests.equal · v))
    else (Clause.comparison? s).map fun op => (row e.reverse).map (tests.compare · op v)
  | _ => none

/-! ## What is not split -/

namespace Lexeme

/-- What ends a clause of a page or a member of one. -/
def splitters : List Lexeme :=
  [.word "WHERE", .word "ORDER", .word "LIMIT", .word "AND", .symbol ","]

theorem ne_of_notMem_splitters {l separator : Lexeme} (h : separator ∈ splitters)
    (hl : l ∉ splitters) : l ≠ separator := by
  rintro rfl
  exact hl h

/-- Lexemes that no reader of a page splits. -/
abbrev Undivided (ls : List Lexeme) : Prop := Outside (· ∉ splitters) ls

theorem lexemes_join (s : String) (ts us : List Token) (tss : List (List Token)) :
    (Token.join s (ts :: us :: tss)).flatMap Token.lexemes =
      ts.flatMap Token.lexemes ++ (read s ++ (Token.join s (us :: tss)).flatMap Token.lexemes) := by
  show (ts ++ .word s :: Token.join s (us :: tss)).flatMap Token.lexemes = _
  rw [List.flatMap_append, List.flatMap_cons]
  rfl

variable {p : Lexeme → Prop} {separator : Lexeme} {s : String}

theorem outside_join (hs : read s = [separator]) (hseparator : p separator)
    (hopen : separator ≠ .symbol "(") (hclose : separator ≠ .symbol ")") {tss : List (List Token)}
    (h : ∀ ts ∈ tss, Outside p (ts.flatMap Token.lexemes)) :
    Outside p ((Token.join s tss).flatMap Token.lexemes) := by
  induction tss with
  | nil => exact .nil
  | cons ts tss ih =>
    cases tss with
    | nil => exact h ts List.mem_cons_self
    | cons us tss =>
      have hrest := ih fun vs hvs => h vs (List.mem_cons_of_mem ts hvs)
      rw [lexemes_join, hs]
      exact (h ts List.mem_cons_self).append (.cons hseparator hopen hclose hrest)

/-- **The members of a list are read back.** -/
theorem members_join (hs : read s = [separator]) (hopen : separator ≠ .symbol "(")
    (hclose : separator ≠ .symbol ")") {tss : List (List Token)} (hne : tss ≠ [])
    (h : ∀ ts ∈ tss, Outside (· ≠ separator) (ts.flatMap Token.lexemes)) :
    members separator ((Token.join s tss).flatMap Token.lexemes) =
      tss.map (List.flatMap Token.lexemes) := by
  have hstarts : ∀ l, l ≠ separator ∨ l = .symbol "(" → decide (l = separator) = false := by
    rintro l (hl | rfl)
    · exact decide_eq_false hl
    · exact decide_eq_false hopen.symm
  induction tss with
  | nil => exact absurd rfl hne
  | cons ts tss ih =>
    have hfirst := h ts List.mem_cons_self
    cases tss with
    | nil =>
      have hsplit : splitFrom (· = separator) 0 (ts.flatMap Token.lexemes ++ []) = _ :=
        hfirst.splitFrom_append (fun _ => hstarts) []
      rw [List.append_nil] at hsplit
      rw [Token.join, members, hsplit]
      simp [splitFrom, prepend]
    | cons us tss =>
      have hrest := ih (by simp) fun vs hvs => h vs (List.mem_cons_of_mem ts hvs)
      -- No member has the separator outside of parentheses, so the first one ends at the first.
      have hsplit := hfirst.splitFrom_start hstarts (decide_eq_true rfl) hclose
        ((Token.join s (us :: tss)).flatMap Token.lexemes)
      obtain ⟨first, more, hmore⟩ := splitFrom_ne_nil (· = separator) 0
        ((Token.join s (us :: tss)).flatMap Token.lexemes)
      rw [members, hmore] at hrest
      rw [lexemes_join, hs, members, List.singleton_append, hsplit, hmore, List.map_cons, ← hrest]
      rfl

/-- Lexemes that may stand before an operator: a name, or a call with balanced arguments. -/
inductive IsTerm : List Lexeme → Prop
  | name (c : String) : IsTerm [.name c]
  | call {f : String} {ls : List Lexeme}
      (hf : f ∉ ["WHERE", "ORDER", "LIMIT", "AND", "OR", "NOT"]) (h : Balanced ls) :
      IsTerm (.word f :: .symbol "(" :: (ls ++ [.symbol ")"]))

theorem IsTerm.undivided {ls : List Lexeme} (h : IsTerm ls) : Undivided ls := by
  cases h with
  | name c => exact .of_forall (by simp [splitters])
  | call hf h => exact .call (by simp_all [splitters]) h

end Lexeme

open Lexeme (Balanced Outside Undivided IsTerm)

/-! ### Expressions -/

namespace Expr

/-- The lexemes of an expression. -/
def lexemes (e : Expr) : List Lexeme := e.tokens.flatMap Token.lexemes

/-- The lexemes of a value as a type of places. -/
def castLexemes (ls : List Lexeme) : List Lexeme :=
  .word "CAST" :: .symbol "(" :: (ls ++ [.word "AS", .word "geography"] ++ [.symbol ")"])

/-- The lexemes of the place of a longitude and a latitude. -/
def placeLexemes (lon lat : Float) : List Lexeme :=
  let point := .word "ST_MakePoint" :: .symbol "(" ::
    (Lexeme.read (plainText lon) ++ .symbol "," :: Lexeme.read (plainText lat) ++ [.symbol ")"])
  .word "ST_SetSRID" :: .symbol "(" :: (point ++ [.symbol ",", .word "4326"] ++ [.symbol ")"])

theorem lexemes_distance (centroidPath : String) (lat lon : Float) (o : Order) :
    (ofSortKey centroidPath (.distance lat lon o)).lexemes =
      .word "ST_Distance" :: .symbol "(" :: (castLexemes [.name centroidPath] ++
        .symbol "," :: castLexemes (placeLexemes lon lat) ++ [.symbol ")"]) := by
  have hdistance : Lexeme.read ("ST_Distance" ++ "(") = [.word "ST_Distance", .symbol "("] := rfl
  have hplace : Lexeme.read ("ST_SetSRID" ++ "(") = [.word "ST_SetSRID", .symbol "("] := rfl
  have hpoint : Lexeme.read ("ST_MakePoint" ++ "(") = [.word "ST_MakePoint", .symbol "("] := rfl
  have hcast : Lexeme.read "CAST(" = [.word "CAST", .symbol "("] := rfl
  have htype : Lexeme.read (" AS " ++ "geography" ++ ")") =
      [.word "AS", .word "geography", .symbol ")"] := rfl
  have hcode : Lexeme.read (toString 4326) = [.word "4326"] := rfl
  have hcomma : Lexeme.read ", " = [.symbol ","] := rfl
  have hclose : Lexeme.read ")" = [.symbol ")"] := rfl
  simp only [lexemes, ofSortKey, tokens, tokensList, Token.between, Token.join, List.flatMap_append,
    List.flatMap_cons, List.flatMap_nil, Token.lexemes, hdistance, hplace, hpoint, hcast, htype,
    hcode, hcomma, hclose, castLexemes, placeLexemes]
  simp

/-- The expression of a sort key may stand before an operator. -/
theorem isTerm_ofSortKey (centroidPath : String) (key : SortKey) :
    IsTerm (ofSortKey centroidPath key).lexemes := by
  have hnumber (x : Float) : Balanced (Lexeme.read (plainText x)) :=
    .of_forall fun l hl => by
      have hplain := Lexeme.isPlain_of_mem_plainText x l hl
      exact ⟨trivial, hplain.1, hplain.2.1⟩
  have hcast {ls : List Lexeme} (h : Balanced ls) : Balanced (castLexemes ls) :=
    .call trivial (h.append (.of_forall (by simp)))
  cases key with
  | field name o => exact .name name
  | distance lat lon o =>
    have hpoint := (hnumber lon).append (.cons (l := .symbol ",") trivial (by simp) (by simp)
      (hnumber lat))
    have hplace : Balanced (placeLexemes lon lat) :=
      .call trivial ((Outside.call trivial hpoint).append (.of_forall (by simp)))
    rw [lexemes_distance]
    refine .call (by decide) ?_
    exact (hcast (.of_forall (by simp))).append (.cons trivial (by simp) (by simp) (hcast hplace))

end Expr

/-! ### Predicates -/

namespace Predicate

theorem lexemes_equal (e : Expr) (n : Nat) :
    lexemes (.equal e n) = e.lexemes ++ [.symbol "=", .placeholder n] := by
  rw [lexemes, tokens, List.flatMap_append]
  rfl

theorem lexemes_compare (e : Expr) (op : Comparison) (n : Nat) :
    lexemes (.compare e op n) = e.lexemes ++ [.symbol op.symbol, .placeholder n] := by
  rw [lexemes, tokens, List.flatMap_append]
  cases op <;> rfl

/-- What a comparison writes behind its expression is not split. -/
theorem undivided_operator {ls : List Lexeme} (h : IsTerm ls) {s : String}
    (hs : s ∈ ["=", "<", "<=", ">", ">="]) (n : Nat) :
    Undivided (ls ++ [.symbol s, .placeholder n]) := by
  refine h.undivided.append (.of_forall ?_)
  simp only [List.mem_cons, List.not_mem_nil, or_false] at hs
  rcases hs with rfl | rfl | rfl | rfl | rfl <;> simp [Lexeme.splitters]

theorem mem_symbols (op : Comparison) : op.symbol ∈ ["=", "<", "<=", ">", ">="] := by
  cases op <;> decide

theorem balanced_placeholders (ns : List Nat) :
    Balanced ((placeholders ns).flatMap Token.lexemes) := by
  have hcomma : Lexeme.read ", " = [.symbol ","] := rfl
  refine Lexeme.outside_join hcomma trivial (by simp) (by simp) fun ts hts => ?_
  obtain ⟨n, -, rfl⟩ := List.mem_map.mp hts
  exact .of_forall (by simp [Token.lexemes])

/-- A list of placeholders in parentheses, behind a name and some words. -/
theorem undivided_list (before : List Lexeme)
    (hbefore : ∀ l ∈ before, l ∉ Lexeme.splitters ∧ l ≠ .symbol "(" ∧ l ≠ .symbol ")")
    (ns : List Nat) : Undivided (before ++ .symbol "(" :: listLexemes ns) :=
  (Outside.of_forall hbefore).append (.parens (balanced_placeholders ns) .nil)

/-- A test is not split. -/
theorem IsTest.undivided {q : Predicate Nat} (h : q.IsTest) : Undivided q.lexemes := by
  cases h with
  | isNull c =>
    show Undivided [.name c, .word "IS", .word "NULL"]
    exact .of_forall (by simp [Lexeme.splitters])
  | notNull c =>
    show Undivided [.name c, .word "IS", .word "NOT", .word "NULL"]
    exact .of_forall (by simp [Lexeme.splitters])
  | equal c n =>
    rw [lexemes_equal]
    exact undivided_operator (.name c) (by decide) n
  | compare c op n =>
    rw [lexemes_compare]
    exact undivided_operator (.name c) (mem_symbols op) n
  | @isOneOf c ns _ =>
    rw [lexemes_isOneOf]
    exact undivided_list [.name c, .word "IN"] (by simp [Lexeme.splitters]) ns
  | @isNoneOf c ns _ =>
    rw [lexemes_isNoneOf]
    exact undivided_list [.name c, .word "NOT", .word "IN"] (by simp [Lexeme.splitters]) ns
  | like c n =>
    show Undivided [.name c, .word "LIKE", .placeholder n]
    exact .of_forall (by simp [Lexeme.splitters])
  | likeAnyCase c n =>
    show Undivided (.word "CAST" :: .symbol "(" ::
      ([.name c, .word "AS", .word "TEXT"] ++ [.symbol ")"]) ++ [.word "ILIKE", .placeholder n])
    exact (Outside.call (by simp [Lexeme.splitters]) (.of_forall (by simp))).append
      (.of_forall (by simp [Lexeme.splitters]))
  | spatial r c n =>
    have hshape : Balanced ([.name c, .symbol ","] ++ .word "ST_GeomFromText" :: .symbol "(" ::
        ([.placeholder n, .symbol ",", .word "4326"] ++ [.symbol ")"])) :=
      (Outside.of_forall (by simp)).append (.call trivial (.of_forall (by simp)))
    cases r with
    | within => exact .call (f := "ST_Within") (by simp [Lexeme.splitters]) hshape
    | intersects => exact .call (f := "ST_Intersects") (by simp [Lexeme.splitters]) hshape

/-- A list of predicates is balanced. -/
theorem balanced_tokensList {qs : List (Predicate Nat)} (h : ∀ q ∈ qs, Undivided q.lexemes)
    {s : String} {l : Lexeme} (hs : Lexeme.read s = [l]) (hopen : l ≠ .symbol "(")
    (hclose : l ≠ .symbol ")") :
    Balanced ((Token.join s (tokensList qs)).flatMap Token.lexemes) := by
  refine Lexeme.outside_join hs trivial hopen hclose fun ts hts => ?_
  rw [tokensList_eq] at hts
  obtain ⟨q, hq, rfl⟩ := List.mem_map.mp hts
  exact (h q hq).balanced

theorem undivided_all {qs : List (Predicate Nat)} (h : ∀ q ∈ qs, Undivided q.lexemes) :
    Undivided (Predicate.parens (.all qs)).lexemes := by
  rw [Clause.lexemes_parens]
  exact .parens (balanced_tokensList h (s := " AND ") rfl (by simp) (by simp)) .nil

theorem undivided_any {qs : List (Predicate Nat)} (h : ∀ q ∈ qs, Undivided q.lexemes) :
    Undivided (Predicate.parens (.any qs)).lexemes := by
  rw [Clause.lexemes_parens]
  exact .parens (balanced_tokensList h (s := " OR ") rfl (by simp) (by simp)) .nil

/-- What a filter is compiled to is not split. -/
theorem Legible.undivided {q : Predicate Nat} (h : q.Legible) : Undivided q.lexemes := by
  induction h with
  | test h => exact h.undivided
  | not h =>
    rw [Clause.lexemes_not]
    exact .cons (by simp [Lexeme.splitters]) (by simp) (by simp) h.undivided
  | all _ _ ih => exact undivided_all ih
  | any _ _ ih => exact undivided_any ih

/-! ### Keysets -/

section Ranked

variable {α : Type} {centroidPath : String}

/-- A predicate that compares the expressions of sort keys, with its choices and conjunctions in
parentheses. -/
inductive Ranked (centroidPath : String) : Predicate α → Prop
  | equal (key : SortKey) (v : α) : Ranked centroidPath (.equal (.ofSortKey centroidPath key) v)
  | compare (key : SortKey) (op : Comparison) (v : α) :
    Ranked centroidPath (.compare (.ofSortKey centroidPath key) op v)
  | all {ps : List (Predicate α)} (hne : ps ≠ []) (h : ∀ p ∈ ps, Ranked centroidPath p) :
    Ranked centroidPath (.parens (.all ps))
  | any {ps : List (Predicate α)} (hne : ps ≠ []) (h : ∀ p ∈ ps, Ranked centroidPath p) :
    Ranked centroidPath (.parens (.any ps))

theorem Ranked.number {p : Predicate α} (h : p.Ranked centroidPath) (n : Nat) :
    (p.number n).Ranked centroidPath := by
  induction h generalizing n with
  | equal key v => exact .equal key n
  | compare key op v => exact .compare key op n
  | all hne _ ih =>
    refine .all (numberList_ne_nil hne n) fun q hq => ?_
    obtain ⟨p, hp, m, rfl⟩ := exists_of_mem_numberList hq
    exact ih p hp m
  | any hne _ ih =>
    refine .any (numberList_ne_nil hne n) fun q hq => ?_
    obtain ⟨p, hp, m, rfl⟩ := exists_of_mem_numberList hq
    exact ih p hp m

theorem Ranked.undivided {q : Predicate Nat} (h : q.Ranked centroidPath) :
    Undivided q.lexemes := by
  induction h with
  | equal key n =>
    rw [lexemes_equal]
    exact undivided_operator (Expr.isTerm_ofSortKey centroidPath key) (by decide) n
  | compare key op n =>
    rw [lexemes_compare]
    exact undivided_operator (Expr.isTerm_ofSortKey centroidPath key) (mem_symbols op) n
  | all _ _ ih => exact undivided_all ih
  | any _ _ ih => exact undivided_any ih

theorem ranked_keysetBranches {equals : List (Predicate Scalar)}
    (h : ∀ p ∈ equals, p.Ranked centroidPath) (keys : List (SortKey × Scalar)) :
    ∀ p ∈ keysetBranches centroidPath equals keys, p.Ranked centroidPath := by
  induction keys generalizing equals with
  | nil => simp [keysetBranches]
  | cons key keys ih =>
    obtain ⟨key, v⟩ := key
    have hadd {p : Predicate Scalar} (hp : p.Ranked centroidPath) :
        ∀ q ∈ equals ++ [p], q.Ranked centroidPath := by
      intro q hq
      rcases List.mem_append.mp hq with hq | hq
      · exact h q hq
      · rwa [List.mem_singleton.mp hq]
    rw [keysetBranches, List.forall_mem_cons]
    exact ⟨.all (by simp) (hadd (.compare key _ v)), ih (hadd (.equal key v))⟩

theorem ranked_keyset {keys : List (SortKey × Scalar)} (hne : keys ≠ []) :
    (keyset centroidPath keys).Ranked centroidPath := by
  refine .any ?_ (ranked_keysetBranches (by simp) keys)
  obtain ⟨key, keys, rfl⟩ := List.exists_cons_of_ne_nil hne
  exact List.cons_ne_nil _ _

end Ranked

end Predicate

/-! ### Statements -/

theorem lexemes_orderKey (key : Expr × Order) :
    (key.1.tokens ++ [Token.word (" " ++ key.2.keyword)]).flatMap Token.lexemes =
      key.1.lexemes ++ [Lexeme.word key.2.keyword] := by
  have hread (o : Order) : Lexeme.read (" " ++ o.keyword) = [.word o.keyword] := by
    cases o <;> rfl
  rw [List.flatMap_append, List.flatMap_singleton, Token.lexemes, hread]
  rfl

/-- Expressions and their directions are read back. -/
theorem mapM_orderKey? (order : List (Expr × Order)) :
    (order.map fun key => key.1.lexemes ++ [Lexeme.word key.2.keyword]).mapM orderKey? =
      some (order.map fun key => (key.1.lexemes, key.2)) := by
  have hkey (key : Expr × Order) :
      orderKey? (key.1.lexemes ++ [Lexeme.word key.2.keyword]) = some (key.1.lexemes, key.2) := by
    obtain ⟨e, o⟩ := key
    cases o <;> simp [orderKey?, Order.keyword]
  induction order with
  | nil => rfl
  | cons key order ih =>
    rw [List.map_cons, List.mapM_cons, hkey, ih]
    rfl

theorem not_startsClause {l : Lexeme} (h : l ∉ Lexeme.splitters) : startsClause l = false := by
  simp_all [Lexeme.splitters, startsClause]

namespace RowQuery

/-- A query whose clauses are read back from its text: it has each of them, and nothing in them is
split. -/
structure Paged (q : RowQuery) : Prop where
  clean : q.Clean
  columns : ∀ c ∈ q.columns, IsTerm c.value.lexemes
  conditions : ∀ p ∈ q.selection.numbered, Undivided p.lexemes
  order : ∀ key ∈ q.order, IsTerm key.1.lexemes
  filtered : q.selection.numbered ≠ []
  ordered : q.order ≠ []
  limited : ∃ n, q.limit = some n

/-- The tokens of a query before its row clause. -/
def selectTokens (q : RowQuery) : List Token :=
  .word "SELECT " :: Token.join ", "
    ((if q.allColumns then [Expr.star.tokens] else []) ++ q.columns.map Column.tokens) ++
      [.word " FROM ", .name q.table]

/-- The runs of the sort keys. -/
def keyTokens (q : RowQuery) : List (List Token) :=
  q.order.map fun key => key.1.tokens ++ [.word (" " ++ key.2.keyword)]

variable {q : RowQuery}

/-- No clause starts among the selected columns. -/
theorem Paged.outside_select (h : q.Paged) :
    Outside (startsClause · = false) (q.selectTokens.flatMap Token.lexemes) := by
  have hcomma : Lexeme.read ", " = [.symbol ","] := rfl
  have hitems : Outside (startsClause · = false) ((Token.join ", "
      ((if q.allColumns then [Expr.star.tokens] else []) ++ q.columns.map Column.tokens)).flatMap
        Token.lexemes) := by
    refine Lexeme.outside_join hcomma (by rfl) (by simp) (by simp) fun ts hts => ?_
    -- An item is the star or a column, whose expression is followed by its name.
    rcases List.mem_append.mp hts with hts | hts
    · split at hts
      · rw [List.mem_singleton.mp hts]
        exact .cons rfl (by decide) (by decide) .nil
      · cases hts
    · obtain ⟨c, hc, rfl⟩ := List.mem_map.mp hts
      rw [Column.tokens, List.flatMap_append]
      refine ((h.columns c hc).undivided.mono fun _ => not_startsClause).append ?_
      show Outside _ [.word "AS", .name c.name]
      exact .of_forall (by simp [startsClause])
  have hfrom : Outside (startsClause · = false) [.word "FROM", .name q.table] :=
    .of_forall (by simp [startsClause])
  rw [selectTokens, List.flatMap_append]
  exact (Outside.cons (l := .word "SELECT") (by rfl) (by simp) (by simp) hitems).append hfrom

theorem Paged.outside_conditions (h : q.Paged) :
    Outside (startsClause · = false) (Predicate.all q.selection.numbered).lexemes := by
  have hand : Lexeme.read " AND " = [.word "AND"] := rfl
  refine Lexeme.outside_join hand (by rfl) (by simp) (by simp) fun ts hts => ?_
  rw [Predicate.tokensList_eq] at hts
  obtain ⟨p, hp, rfl⟩ := List.mem_map.mp hts
  exact (h.conditions p hp).mono fun _ => not_startsClause

/-- What a sort key is written with. -/
theorem Paged.outside_key (h : q.Paged) {p : Lexeme → Prop} (hp : ∀ l, l ∉ Lexeme.splitters → p l)
    {ts : List Token} (hts : ts ∈ q.keyTokens) : Outside p (ts.flatMap Token.lexemes) := by
  obtain ⟨⟨e, o⟩, hkey, rfl⟩ := List.mem_map.mp hts
  rw [lexemes_orderKey]
  refine ((h.order _ hkey).undivided.mono hp).append (.of_forall ?_)
  cases o with
  | asc => simp [Order.keyword, hp, Lexeme.splitters]
  | desc => simp [Order.keyword, hp, Lexeme.splitters]

theorem Paged.outside_keys (h : q.Paged) :
    Outside (startsClause · = false) ((Token.join ", " q.keyTokens).flatMap Token.lexemes) := by
  have hcomma : Lexeme.read ", " = [.symbol ","] := rfl
  exact Lexeme.outside_join hcomma (by rfl) (by simp) (by simp) fun ts hts =>
    h.outside_key (fun _ => not_startsClause) hts

/-- The lexemes of a page, clause by clause. -/
theorem Paged.lexemes_tokens (h : q.Paged) : ∃ rest,
    q.tokens.flatMap Token.lexemes = q.selectTokens.flatMap Token.lexemes ++
      .word "WHERE" :: ((Predicate.all q.selection.numbered).lexemes ++
        .word "ORDER" :: ((.word "BY" :: (Token.join ", " q.keyTokens).flatMap Token.lexemes) ++
          .word "LIMIT" :: rest)) := by
  obtain ⟨n, hn⟩ := h.limited
  have hlimit : Lexeme.read (" LIMIT " ++ toString n) =
      .word "LIMIT" :: Lexeme.read (toString n) := by
    rw [Lexeme.read, String.toList_append, Lexeme.finish_append]
    rfl
  have hselection : q.selection.tokens =
      .word " WHERE " :: (Predicate.all q.selection.numbered).tokens :=
    if_neg (by simpa using h.filtered)
  have horder : orderTokens (q.order.map fun key => (key.1.tokens, key.2)) =
      Token.join ", " q.keyTokens := by
    rw [orderTokens, List.map_map]
    rfl
  have hwhere : Lexeme.read " WHERE " = [.word "WHERE"] := rfl
  have hby : Lexeme.read " ORDER BY " = [.word "ORDER", .word "BY"] := rfl
  refine ⟨Lexeme.read (toString n) ++
    (if 0 < q.offset then [Token.word (" OFFSET " ++ toString q.offset)] else []).flatMap
      Token.lexemes, ?_⟩
  rw [tokens, ← selectTokens, hselection, if_neg (by simpa using h.ordered), horder, hn]
  simp only [Option.map_some, Option.toList_some, List.flatMap_append, List.flatMap_cons,
    Token.lexemes, hwhere, hby, hlimit, Predicate.lexemes, List.append_assoc, List.cons_append,
    List.nil_append]

/-- **The clauses of a page are read back from its text.** -/
theorem Paged.pageClauses?_tokens (h : q.Paged) :
    pageClauses? (Token.textOf q.tokens) = some ⟨q.selection.numbered.map Predicate.lexemes,
      q.order.map fun key => (key.1.lexemes, key.2)⟩ := by
  have hstarts : ∀ l, startsClause l = false ∨ l = .symbol "(" → startsClause l = false := by
    rintro l (hl | rfl)
    · exact hl
    · rfl
  have hby : Outside (startsClause · = false)
      (.word "BY" :: (Token.join ", " q.keyTokens).flatMap Token.lexemes) :=
    .cons (by rfl) (by simp) (by simp) h.outside_keys
  obtain ⟨rest, htokens⟩ := h.lexemes_tokens
  obtain ⟨first, more, hrest⟩ := Lexeme.splitFrom_ne_nil startsClause 0 rest
  -- Each clause is cut off at the word that begins the next one.
  have hsplit := h.outside_select.splitFrom_start hstarts (l := .word "WHERE") rfl (by simp)
    ((Predicate.all q.selection.numbered).lexemes ++ .word "ORDER" ::
      ((.word "BY" :: (Token.join ", " q.keyTokens).flatMap Token.lexemes) ++
        .word "LIMIT" :: rest))
  rw [h.outside_conditions.splitFrom_start hstarts (l := .word "ORDER") rfl (by simp),
    hby.splitFrom_start hstarts (l := .word "LIMIT") rfl (by simp), hrest] at hsplit
  have hand : Lexeme.read " AND " = [.word "AND"] := rfl
  have hcomma : Lexeme.read ", " = [.symbol ","] := rfl
  have hconditions : Lexeme.members (.word "AND") (Predicate.all q.selection.numbered).lexemes =
      q.selection.numbered.map Predicate.lexemes := by
    rw [Predicate.lexemes, Predicate.tokens, Predicate.tokensList_eq,
      Lexeme.members_join hand (by simp) (by simp) (by simpa using h.filtered),
      List.map_map]
    · rfl
    · intro ts hts
      obtain ⟨p, hp, rfl⟩ := List.mem_map.mp hts
      exact (h.conditions p hp).mono fun l => Lexeme.ne_of_notMem_splitters (by decide)
  have hkey : ∀ ts ∈ q.keyTokens, Outside (· ≠ .symbol ",") (ts.flatMap Token.lexemes) :=
    fun ts hts => h.outside_key (fun l => Lexeme.ne_of_notMem_splitters (by decide)) hts
  have hkeys : Lexeme.members (.symbol ",") ((Token.join ", " q.keyTokens).flatMap Token.lexemes) =
      q.order.map fun key => key.1.lexemes ++ [Lexeme.word key.2.keyword] := by
    rw [Lexeme.members_join hcomma (by simp) (by simp) (by simpa [keyTokens] using h.ordered) hkey,
      keyTokens, List.map_map]
    exact List.map_congr_left fun key _ => lexemes_orderKey key
  rw [pageClauses?, Token.lexemes_textOf (clean_tokens h.clean).toReadable, htokens, hsplit]
  show ((Lexeme.members (.symbol ",") _).mapM orderKey?).map _ = _
  rw [hkeys, mapM_orderKey?, ← hconditions]
  rfl

end RowQuery

theorem Draft.isTerm_sortColumns (centroidPath : String) (i : Nat) (keys : List SortKey) :
    ∀ c ∈ sortColumns centroidPath i keys, IsTerm c.value.lexemes := by
  induction keys generalizing i with
  | nil => simp [sortColumns]
  | cons key keys ih =>
    rw [sortColumns, List.forall_mem_cons]
    exact ⟨Expr.isTerm_ofSortKey centroidPath key, ih (i + 1)⟩

theorem Draft.isTerm_pageOrder (c : Collection) (sort : List SortKey) :
    ∀ key ∈ pageOrder c sort, IsTerm key.1.lexemes := by
  rw [pageOrder]
  split
  · intro key hkey
    rw [List.mem_singleton.mp hkey]
    exact .name c.idPath
  · intro key hkey
    obtain ⟨sortKey, -, rfl⟩ := List.mem_map.mp hkey
    exact Expr.isTerm_ofSortKey c.centroidPath sortKey

theorem Draft.pageOrder_ne_nil (c : Collection) (sort : List SortKey) : pageOrder c sort ≠ [] := by
  rw [pageOrder]
  split
  · exact List.cons_ne_nil _ _
  · simp_all

/-- **The clauses of a page behind a cursor are read back.** -/
theorem Draft.pageClauses?_hitsStatement (d : Draft) {filter : List (Predicate Scalar)}
    (hfilter : ∀ p ∈ filter, p.Legible) {keys : List (SortKey × Scalar)}
    (hafter : d.after = some keys) (hne : keys ≠ []) :
    pageClauses? (d.hitsStatement filter).sql =
      some ⟨(d.hitsStatement filter).query.selection.numbered.map Predicate.lexemes,
        (pageOrder d.collection d.sort).map fun key => (key.1.lexemes, key.2)⟩ := by
  have hclean : ∀ e ∈ Predicate.exprsList filter, e.Clean := by
    intro e he
    obtain ⟨p, hp, he⟩ := Predicate.mem_exprsList.mp he
    exact (hfilter p hp).clean_exprs e he
  have hshape (path : String) : IsTerm (Expr.call "ST_AsGeoJSON" [.column path]).lexemes := by
    show IsTerm (.word "ST_AsGeoJSON" :: .symbol "(" :: ([.name path] ++ [.symbol ")"]))
    exact .call (by decide) (.of_forall (by simp))
  have hnumbered : (d.hitsStatement filter).query.selection.numbered =
      Predicate.numberList (1 + (Predicate.valuesList
        [Predicate.keyset d.collection.centroidPath keys]).length) filter ++
        [(Predicate.keyset d.collection.centroidPath keys).number 1] := by
    show Selection.numbered ⟨filter, (d.after.map _).toList⟩ = _
    rw [hafter]
    rfl
  refine RowQuery.Paged.pageClauses?_tokens {
    clean := Draft.clean_hitsStatement d hclean
    columns := ?_
    conditions := ?_
    order := isTerm_pageOrder d.collection d.sort
    filtered := ?_
    ordered := pageOrder_ne_nil d.collection d.sort
    limited := ⟨d.size, rfl⟩ }
  · intro c hc
    rcases List.mem_append.mp hc with hc | hc
    · rcases List.mem_cons.mp hc with rfl | hc
      · exact hshape d.collection.geometryPath
      · rw [List.mem_singleton.mp hc]
        exact hshape d.collection.centroidPath
    · exact isTerm_sortColumns _ _ _ c hc
  · intro q hq
    replace hq : q ∈ (d.hitsStatement filter).query.selection.numbered := hq
    rw [hnumbered] at hq
    -- A condition comes from the filter or is the keyset behind it.
    rcases List.mem_append.mp hq with hq | hq
    · obtain ⟨p, hp, n, rfl⟩ := Predicate.exists_of_mem_numberList hq
      exact ((hfilter p hp).number n).undivided
    · rw [List.mem_singleton.mp hq]
      exact ((Predicate.ranked_keyset hne).number 1).undivided
  · show (d.hitsStatement filter).query.selection.numbered ≠ []
    rw [hnumbered]
    simp

/-! ## Evaluating a keyset -/

namespace Clause

section Evaluation

variable {V : Type} {tests : Tests V} {row : List Lexeme → Option V} {params : List Scalar}
  {value? : List Lexeme → Option Truth}

/-- Balanced lexemes are gathered inside of parentheses. -/
theorem run_balanced {p : Lexeme → Prop} {ls : List Lexeme} (h : Outside p ls) (f : Frame)
    (fs : List Frame) (read : List Lexeme) (depth : Nat) :
    ls.foldlM (step value?) ⟨f, fs, .test read (depth + 1)⟩ =
      some ⟨f, fs, .test (ls.reverse ++ read) (depth + 1)⟩ := by
  induction h generalizing read depth with
  | nil => rfl
  | @cons p l ls _ hopen hclose _ ih =>
    have hstep : step value? ⟨f, fs, .test read (depth + 1)⟩ l =
        some ⟨f, fs, .test (l :: read) (depth + 1)⟩ := by
      simp [step, hopen, hclose]
    rw [List.foldlM_cons, hstep]
    show ls.foldlM _ _ = _
    rw [ih]
    simp
  | @parens p inner rest _ _ ihinner ih =>
    show (inner ++ .symbol ")" :: rest).foldlM (step value?)
      ⟨f, fs, .test (.symbol "(" :: read) (depth + 2)⟩ = _
    rw [List.foldlM_append, ihinner]
    show rest.foldlM (step value?)
      ⟨f, fs, .test (.symbol ")" :: (inner.reverse ++ .symbol "(" :: read)) (depth + 1)⟩ = _
    rw [ih]
    simp

/-- A comparison is gathered up to its end. -/
theorem run_comparison {ls : List Lexeme} (h : IsTerm ls) {s : String}
    (hs : s ∈ ["=", "<", "<=", ">", ">="]) (n : Nat) (f : Frame) (fs : List Frame) :
    (ls ++ [Lexeme.symbol s, .placeholder n]).foldlM (step value?) ⟨f, fs, .operand⟩ =
      some ⟨f, fs, .test (ls ++ [Lexeme.symbol s, .placeholder n]).reverse 0⟩ := by
  have hend (read : List Lexeme) :
      [Lexeme.symbol s, .placeholder n].foldlM (step value?) ⟨f, fs, .test read 0⟩ =
        some ⟨f, fs, .test (.placeholder n :: .symbol s :: read) 0⟩ := by
    simp only [List.mem_cons, List.not_mem_nil, or_false] at hs
    rcases hs with rfl | rfl | rfl | rfl | rfl <;> rfl
  rw [List.foldlM_append]
  cases h with
  | name c =>
    show [Lexeme.symbol s, .placeholder n].foldlM (step value?) ⟨f, fs, .test [.name c] 0⟩ = _
    rw [hend]
    simp
  | @call g inner hg h =>
    have hstart : step value? ⟨f, fs, .operand⟩ (.word g) =
        some ⟨f, fs, .test [.word g] 0⟩ := by
      simp_all [step, isConnective]
    have hinner : (inner ++ [Lexeme.symbol ")"]).foldlM (step value?)
        ⟨f, fs, .test [.symbol "(", .word g] 1⟩ =
          some ⟨f, fs, .test (.symbol ")" :: (inner.reverse ++ [.symbol "(", .word g])) 0⟩ := by
      rw [List.foldlM_append, run_balanced h]
      rfl
    rw [List.foldlM_cons, hstart]
    show ((inner ++ [Lexeme.symbol ")"]).foldlM (step value?)
      ⟨f, fs, .test [.symbol "(", .word g] 1⟩ >>= _) = _
    rw [hinner]
    show [Lexeme.symbol s, .placeholder n].foldlM (step value?) _ = _
    rw [hend]
    simp

/-- A comparison is read as what it says. -/
theorem reads_comparison {ls : List Lexeme} (h : IsTerm ls) {s : String}
    (hs : s ∈ ["=", "<", "<=", ">", ">="]) {n : Nat} {t : Truth}
    (hvalue : value? (ls ++ [.symbol s, .placeholder n]) = some t) :
    Reads value? (ls ++ [.symbol s, .placeholder n]) t := by
  intro f fs
  refine ⟨_, run_comparison h hs n f fs, ?_⟩
  show (value? (ls ++ [Lexeme.symbol s, .placeholder n]).reverse.reverse).map _ = _
  rw [List.reverse_reverse, hvalue]
  rfl

theorem compared?_operator (ls : List Lexeme) (s : String) {n : Nat} {v : Scalar}
    (hv : Predicate.param? params n = some v) :
    compared? tests row params (ls ++ [.symbol s, .placeholder n]) =
      if s = "=" then some ((row ls).map (tests.equal · v))
      else (comparison? s).map fun op => (row ls).map (tests.compare · op v) := by
  have hreverse : (ls ++ [Lexeme.symbol s, .placeholder n]).reverse =
      .placeholder n :: .symbol s :: ls.reverse := by simp
  rw [compared?, hreverse]
  simp only [hv, List.reverse_reverse]
  rfl

/-- **A keyset is read as what it says**, for a row with values for the lexemes of expressions. -/
theorem reads_ranked {centroidPath : String} {q : Predicate Nat} {p : Predicate Scalar}
    (h : q.Ranked centroidPath) (hfill : q.fill? params = some p) :
    Reads (compared? tests row params) q.lexemes (p.truth tests fun e => row e.lexemes) := by
  induction h generalizing p with
  | equal key n =>
    obtain ⟨v, hv, rfl⟩ := Option.map_eq_some_iff.mp hfill
    rw [Predicate.lexemes_equal]
    refine reads_comparison (Expr.isTerm_ofSortKey centroidPath key) (by decide) ?_
    rw [compared?_operator _ _ hv]
    rfl
  | compare key op n =>
    obtain ⟨v, hv, rfl⟩ := Option.map_eq_some_iff.mp hfill
    rw [Predicate.lexemes_compare]
    refine reads_comparison (Expr.isTerm_ofSortKey centroidPath key) (Predicate.mem_symbols op) ?_
    rw [compared?_operator _ _ hv]
    cases op <;> rfl
  | all hne _ ih => exact reads_all hne ih hfill
  | any hne _ ih => exact reads_any hne ih hfill

/-- **The text of a keyset is evaluated to what the keyset says.** -/
theorem clause?_keyset {centroidPath : String} {q : Predicate Nat} {p : Predicate Scalar}
    (h : q.Ranked centroidPath) (hfill : q.fill? params = some p) :
    clause? (compared? tests row params) q.lexemes =
      some (p.truth tests fun e => row e.lexemes) := by
  obtain ⟨s, hrun, hsettle⟩ := reads_ranked h hfill .fresh []
  show (q.lexemes.foldlM (step (compared? tests row params)) ⟨.fresh, [], .operand⟩ >>= _) = _
  rw [hrun]
  show (settle _ s >>= _) = _
  rw [hsettle]
  show some (Frame.value (Frame.fresh.add _)) = _
  generalize p.truth tests _ = t
  rcases t with _ | _ | _ <;> rfl

end Evaluation

end Clause

end GeoFacet.Sql
