import GeoFacet.Proofs.Sql.Placeholders

/-!
# Reading a row clause

The clause behind `WHERE` is evaluated for a row while it is read from left to right. `AND` binds
tighter than `OR`: an `OR` ends the present conjunction, and a parenthesis in place of an operand
opens a clause of its own. What stands between the connectives is a test of the row with values for
its placeholders.
-/

namespace GeoFacet.Sql

namespace Clause

/-! ## Tests -/

/-- The comparison that a symbol stands for. -/
def comparison? : String → Option Comparison
  | ">=" => some .gte
  | ">" => some .gt
  | "<=" => some .lte
  | "<" => some .lt
  | _ => none

/-- The relation that a function tests. -/
def relation? : String → Option SpatialRelation
  | "ST_Within" => some .within
  | "ST_Intersects" => some .intersects
  | _ => none

/-- Placeholders between commas, up to the closing parenthesis. -/
def numbers? : List Lexeme → Option (List Nat)
  | [.placeholder n, .symbol ")"] => some [n]
  | .placeholder n :: .symbol "," :: rest => (numbers? rest).map (n :: ·)
  | _ => none

/-- The test that some lexemes write. -/
def test? : List Lexeme → Option (Predicate Nat)
  | [.name c, .word "IS", .word "NULL"] => some (.isNull c)
  | [.name c, .word "IS", .word "NOT", .word "NULL"] => some (.notNull c)
  | .name c :: .word "IN" :: .symbol "(" :: rest => (numbers? rest).map (.isOneOf c)
  | .name c :: .word "NOT" :: .word "IN" :: .symbol "(" :: rest =>
    (numbers? rest).map (.isNoneOf c)
  | [.name c, .symbol "=", .placeholder n] => some (.equal (.column c) n)
  | [.name c, .symbol s, .placeholder n] => (comparison? s).map (.compare (.column c) · n)
  | [.name c, .word "LIKE", .placeholder n] => some (.like (.column c) n)
  | [.word "CAST", .symbol "(", .name c, .word "AS", .word type, .symbol ")", .word "ILIKE",
      .placeholder n] => some (.likeAnyCase (.cast (.column c) type) n)
  | [.word f, .symbol "(", .name c, .symbol ",", .word "ST_GeomFromText", .symbol "(",
      .placeholder n, .symbol ",", .word "4326", .symbol ")", .symbol ")"] =>
    (relation? f).map (.spatial · c n)
  | _ => none

/-! ## The evaluator -/

/-- A clause that is being read. -/
structure Frame where
  /-- the alternatives that are complete -/
  before : Truth
  /-- the complete members of the present conjunction -/
  now : Truth
  /-- whether the next operand is negated -/
  negated : Bool
  deriving DecidableEq

namespace Frame

def fresh : Frame := ⟨some false, some true, false⟩

/-- Adds an operand to the present conjunction. -/
def add (f : Frame) (t : Truth) : Frame :=
  ⟨f.before, f.now.and (if f.negated then t.not else t), false⟩

/-- Ends the present conjunction. -/
def turn (f : Frame) : Frame := ⟨f.before.or f.now, some true, false⟩

def value (f : Frame) : Truth := f.before.or f.now

end Frame

/-- Where in a clause the reader is. -/
inductive Phase where
  /-- before an operand -/
  | operand
  /-- inside a test, with the number of parentheses open in it -/
  | test (read : List Lexeme) (depth : Nat)
  /-- behind an operand -/
  | behind
  deriving DecidableEq

structure State where
  frame : Frame
  /-- the clauses around the present one, the innermost first -/
  outer : List Frame
  phase : Phase
  deriving DecidableEq

/-- Whether a lexeme ends an operand. -/
def isConnective (l : Lexeme) : Bool :=
  l = .word "AND" || l = .word "OR" || l = .symbol ")"

section Evaluation

variable (value? : List Lexeme → Option Truth)

/-- Completes the present operand. -/
def settle (s : State) : Option State :=
  match s.phase with
  | .behind => some s
  | .test read 0 => (value? read.reverse).map fun t => ⟨s.frame.add t, s.outer, .behind⟩
  | _ => none

/-- Goes on behind a complete operand. -/
def connect (s : State) (l : Lexeme) : Option State :=
  if l = .word "AND" then some ⟨s.frame, s.outer, .operand⟩
  else if l = .word "OR" then some ⟨s.frame.turn, s.outer, .operand⟩
  else if l = .symbol ")" then
    match s.outer with
    | [] => none
    | f :: fs => some ⟨f.add s.frame.value, fs, .behind⟩
  else none

/-- Reads one lexeme. -/
def step (s : State) (l : Lexeme) : Option State :=
  match s.phase with
  | .operand =>
    if l = .word "NOT" then some ⟨{ s.frame with negated := !s.frame.negated }, s.outer, .operand⟩
    else if l = .symbol "(" then some ⟨.fresh, s.frame :: s.outer, .operand⟩
    else if isConnective l then none
    else some ⟨s.frame, s.outer, .test [l] 0⟩
  | .behind => connect s l
  | .test read depth =>
    if depth = 0 && isConnective l then (settle value? s).bind fun s => connect s l
    else
      let depth :=
        if l = .symbol "(" then depth + 1 else if l = .symbol ")" then depth - 1 else depth
      some ⟨s.frame, s.outer, .test (l :: read) depth⟩

/-- The truth of a clause that is complete. -/
def clause? (ls : List Lexeme) : Option Truth := do
  let s ← ls.foldlM (step value?) ⟨.fresh, [], .operand⟩
  let s ← settle value? s
  if s.outer.isEmpty then some s.frame.value else none

end Evaluation

/-- The lexemes behind the word `WHERE`, if there is one. -/
def behindWhere? : List Lexeme → Option (List Lexeme)
  | [] => none
  | l :: ls => if l = .word "WHERE" then some ls else behindWhere? ls

/-- The truth of a test, once values are filled in. -/
def valueOf {V : Type} (tests : Tests V) (row : RowValues V) (params : List Scalar)
    (ls : List Lexeme) : Option Truth := do
  let p ← test? ls
  let p ← p.fill? params
  some (p.truth tests row)

end Clause

/-- Whether a statement that ends with a row clause keeps a row, if its text can be read: the truth
of the clause, with the parameters of the statement for its placeholders. Without a clause every row
is kept. -/
def keeps? {V : Type} (tests : Tests V) (row : RowValues V) (sql : String) (params : List Scalar) :
    Option Truth :=
  match Clause.behindWhere? (Lexeme.read sql) with
  | none => some (some true)
  | some ls => Clause.clause? (Clause.valueOf tests row params) ls

/-! ## Predicates that can be read -/

namespace Predicate

variable {α : Type}

/-- A predicate that is written as one test. -/
inductive IsTest : Predicate α → Prop
  | isNull (c : String) : IsTest (.isNull c)
  | notNull (c : String) : IsTest (.notNull c)
  | equal (c : String) (v : α) : IsTest (.equal (.column c) v)
  | compare (c : String) (op : Comparison) (v : α) : IsTest (.compare (.column c) op v)
  | isOneOf (c : String) {vs : List α} (h : vs ≠ []) : IsTest (.isOneOf c vs)
  | isNoneOf (c : String) {vs : List α} (h : vs ≠ []) : IsTest (.isNoneOf c vs)
  | like (c : String) (v : α) : IsTest (.like (.column c) v)
  | likeAnyCase (c : String) (v : α) : IsTest (.likeAnyCase (.cast (.column c) "TEXT") v)
  | spatial (r : SpatialRelation) (c : String) (v : α) : IsTest (.spatial r c v)

/-- A predicate whose choices and conjunctions stand in parentheses. -/
inductive Legible : Predicate α → Prop
  | test {p : Predicate α} (h : IsTest p) : Legible p
  | not {p : Predicate α} (h : IsTest p) : Legible (.not p)
  | all {ps : List (Predicate α)} (hne : ps ≠ []) (h : ∀ p ∈ ps, Legible p) :
    Legible (.parens (.all ps))
  | any {ps : List (Predicate α)} (hne : ps ≠ []) (h : ∀ p ∈ ps, Legible p) :
    Legible (.parens (.any ps))

theorem IsTest.number {p : Predicate α} (h : p.IsTest) (n : Nat) : (p.number n).IsTest := by
  cases h with
  | isNull c => exact .isNull c
  | notNull c => exact .notNull c
  | equal c v => exact .equal c n
  | compare c op v => exact .compare c op n
  | isOneOf c h => exact .isOneOf c (by simpa using h)
  | isNoneOf c h => exact .isNoneOf c (by simpa using h)
  | like c v => exact .like c n
  | likeAnyCase c v => exact .likeAnyCase c n
  | spatial r c v => exact .spatial r c n

theorem exists_of_mem_numberList {ps : List (Predicate α)} {n : Nat} {q : Predicate Nat}
    (h : q ∈ numberList n ps) : ∃ p ∈ ps, ∃ m, q = p.number m := by
  induction ps generalizing n with
  | nil => cases h
  | cons p ps ih =>
    rcases List.mem_cons.mp h with rfl | h
    · exact ⟨p, List.mem_cons_self, n, rfl⟩
    · obtain ⟨p', hp', hq⟩ := ih h
      exact ⟨p', List.mem_cons_of_mem p hp', hq⟩

theorem numberList_ne_nil {ps : List (Predicate α)} (h : ps ≠ []) (n : Nat) :
    numberList n ps ≠ [] := by
  cases ps with
  | nil => exact absurd rfl h
  | cons p ps => simp [numberList]

/-- Numbering leaves a predicate legible. -/
theorem Legible.number {p : Predicate α} (h : p.Legible) (n : Nat) : (p.number n).Legible := by
  induction h generalizing n with
  | test h => exact .test (h.number n)
  | not h => exact .not (h.number n)
  | all hne _ ih =>
    refine .all (numberList_ne_nil hne n) fun q hq => ?_
    obtain ⟨p, hp, m, rfl⟩ := exists_of_mem_numberList hq
    exact ih p hp m
  | any hne _ ih =>
    refine .any (numberList_ne_nil hne n) fun q hq => ?_
    obtain ⟨p, hp, m, rfl⟩ := exists_of_mem_numberList hq
    exact ih p hp m

/-- The expressions of a test are columns, cast or not. -/
theorem IsTest.clean_exprs {p : Predicate α} (h : p.IsTest) : ∀ e ∈ p.exprs, e.Clean := by
  have hcast : Fixed "TEXT" := by decide
  cases h <;> simp [exprs, Expr.Clean, hcast]

theorem Legible.clean_exprs {p : Predicate α} (h : p.Legible) : ∀ e ∈ p.exprs, e.Clean := by
  induction h with
  | test h => exact h.clean_exprs
  | not h => exact h.clean_exprs
  | all _ _ ih =>
    intro e he
    obtain ⟨p, hp, he⟩ := mem_exprsList.mp he
    exact ih p hp e he
  | any _ _ ih =>
    intro e he
    obtain ⟨p, hp, he⟩ := mem_exprsList.mp he
    exact ih p hp e he

/-- The lexemes of a predicate. -/
def lexemes (q : Predicate Nat) : List Lexeme := q.tokens.flatMap Token.lexemes

/-- The lexemes of placeholders up to the closing parenthesis. -/
def listLexemes (ns : List Nat) : List Lexeme :=
  (placeholders ns).flatMap Token.lexemes ++ [.symbol ")"]

theorem listLexemes_cons {n : Nat} {ns : List Nat} (h : ns ≠ []) :
    listLexemes (n :: ns) = .placeholder n :: .symbol "," :: listLexemes ns := by
  obtain _ | ⟨m, ns⟩ := ns
  · exact absurd rfl h
  · rfl

theorem numbers?_listLexemes {ns : List Nat} (h : ns ≠ []) :
    Clause.numbers? (listLexemes ns) = some ns := by
  induction ns with
  | nil => exact absurd rfl h
  | cons n ns ih =>
    by_cases hns : ns = []
    · subst hns
      rfl
    · rw [listLexemes_cons hns, Clause.numbers?, ih hns]
      rfl

theorem lexemes_isOneOf (c : String) (ns : List Nat) :
    lexemes (.isOneOf c ns) = .name c :: .word "IN" :: .symbol "(" :: listLexemes ns := by
  have hopen : Lexeme.read " IN (" = [.word "IN", .symbol "("] := rfl
  have hclose : Lexeme.read ")" = [.symbol ")"] := rfl
  simp [lexemes, tokens, Token.between, listLexemes, hopen, hclose, Token.lexemes]

theorem lexemes_isNoneOf (c : String) (ns : List Nat) :
    lexemes (.isNoneOf c ns) =
      .name c :: .word "NOT" :: .word "IN" :: .symbol "(" :: listLexemes ns := by
  have hopen : Lexeme.read " NOT IN (" = [.word "NOT", .word "IN", .symbol "("] := rfl
  have hclose : Lexeme.read ")" = [.symbol ")"] := rfl
  simp [lexemes, tokens, Token.between, listLexemes, hopen, hclose, Token.lexemes]

/-- A test is read back. -/
theorem IsTest.test?_lexemes {q : Predicate Nat} (h : q.IsTest) :
    Clause.test? q.lexemes = some q := by
  cases h with
  | isNull c => rfl
  | notNull c => rfl
  | equal c n => rfl
  | compare c op n => cases op <;> rfl
  | isOneOf c h =>
    rw [lexemes_isOneOf]
    show (Clause.numbers? _).map _ = _
    rw [numbers?_listLexemes h]
    rfl
  | isNoneOf c h =>
    rw [lexemes_isNoneOf]
    show (Clause.numbers? _).map _ = _
    rw [numbers?_listLexemes h]
    rfl
  | like c n => rfl
  | likeAnyCase c n => rfl
  | spatial r c n => cases r <;> rfl

end Predicate

/-! ## Evaluating what was written -/

namespace Clause

section Reading

variable {value? : List Lexeme → Option Truth}

/-- Read as an operand, the lexemes add a truth value to the present conjunction. -/
def Reads (value? : List Lexeme → Option Truth) (ls : List Lexeme) (t : Truth) : Prop :=
  ∀ f fs, ∃ s, ls.foldlM (step value?) ⟨f, fs, .operand⟩ = some s ∧
    settle value? s = some ⟨f.add t, fs, .behind⟩

theorem run_listLexemes {f : Frame} {fs : List Frame} {ns : List Nat} (h : ns ≠ [])
    (read : List Lexeme) :
    (Predicate.listLexemes ns).foldlM (step value?) ⟨f, fs, .test read 1⟩ =
      some ⟨f, fs, .test ((Predicate.listLexemes ns).reverse ++ read) 0⟩ := by
  induction ns generalizing read with
  | nil => exact absurd rfl h
  | cons n ns ih =>
    by_cases hns : ns = []
    · subst hns
      rfl
    · rw [Predicate.listLexemes_cons hns]
      show (Predicate.listLexemes ns).foldlM (step value?)
        ⟨f, fs, .test (.symbol "," :: .placeholder n :: read) 1⟩ = _
      rw [ih hns]
      simp

/-- The lexemes of a test are gathered up to its end. -/
theorem run_test {q : Predicate Nat} (h : q.IsTest) (f : Frame) (fs : List Frame) :
    q.lexemes.foldlM (step value?) ⟨f, fs, .operand⟩ =
      some ⟨f, fs, .test q.lexemes.reverse 0⟩ := by
  cases h with
  | isNull c => rfl
  | notNull c => rfl
  | equal c n => rfl
  | compare c op n => cases op <;> rfl
  | isOneOf c h =>
    rw [Predicate.lexemes_isOneOf]
    show (Predicate.listLexemes _).foldlM (step value?)
      ⟨f, fs, .test [.symbol "(", .word "IN", .name c] 1⟩ = _
    rw [run_listLexemes h]
    simp
  | isNoneOf c h =>
    rw [Predicate.lexemes_isNoneOf]
    show (Predicate.listLexemes _).foldlM (step value?)
      ⟨f, fs, .test [.symbol "(", .word "IN", .word "NOT", .name c] 1⟩ = _
    rw [run_listLexemes h]
    simp
  | like c n => rfl
  | likeAnyCase c n => rfl
  | spatial r c n => cases r <;> rfl

theorem reads_test {q : Predicate Nat} (h : q.IsTest) {t : Truth}
    (hvalue : value? q.lexemes = some t) : Reads value? q.lexemes t := by
  intro f fs
  refine ⟨_, run_test h f fs, ?_⟩
  show (value? q.lexemes.reverse.reverse).map _ = _
  rw [List.reverse_reverse, hvalue]
  rfl

theorem reads_not {ls : List Lexeme} {t : Truth} (h : Reads value? ls t) :
    Reads value? (.word "NOT" :: ls) t.not := by
  intro f fs
  obtain ⟨s, hs, hsettle⟩ := h { f with negated := !f.negated } fs
  refine ⟨s, hs, hsettle.trans ?_⟩
  obtain ⟨before, now, negated⟩ := f
  have hnot : t.not.not = t := by rcases t with _ | _ | _ <;> rfl
  cases negated with
  | false => rfl
  | true => simp [Frame.add, hnot]

/-- A connective behind a complete operand. -/
theorem step_of_settle {s s' : State} {l : Lexeme} (hs : settle value? s = some s')
    (hl : isConnective l = true) : step value? s l = connect s' l := by
  obtain ⟨f, fs, phase⟩ := s
  match phase with
  | .operand => cases hs
  | .behind =>
    cases hs
    rfl
  | .test read 0 =>
    rw [step]
    simp only [hl, decide_true, Bool.and_self, if_true]
    rw [hs]
    rfl
  | .test read (n + 1) => cases hs

/-! ### Parentheses -/

theorem lexemes_parens (q : Predicate Nat) :
    (Predicate.parens q).lexemes = .symbol "(" :: q.lexemes ++ [.symbol ")"] := by
  have hopen : Lexeme.read "(" = [.symbol "("] := rfl
  have hclose : Lexeme.read ")" = [.symbol ")"] := rfl
  simp [Predicate.lexemes, Predicate.tokens, Token.between, hopen, hclose, Token.lexemes]

theorem lexemes_not (q : Predicate Nat) :
    (Predicate.not q).lexemes = .word "NOT" :: q.lexemes := by
  have hnot : Lexeme.read "NOT " = [.word "NOT"] := rfl
  simp [Predicate.lexemes, Predicate.tokens, hnot, Token.lexemes]

theorem lexemes_all_cons (q r : Predicate Nat) (qs : List (Predicate Nat)) :
    (Predicate.all (q :: r :: qs)).lexemes =
      q.lexemes ++ .word "AND" :: (Predicate.all (r :: qs)).lexemes := by
  have hand : Lexeme.read " AND " = [.word "AND"] := rfl
  simp [Predicate.lexemes, Predicate.tokens, Predicate.tokensList, Token.join, hand, Token.lexemes]

theorem lexemes_any_cons (q r : Predicate Nat) (qs : List (Predicate Nat)) :
    (Predicate.any (q :: r :: qs)).lexemes =
      q.lexemes ++ .word "OR" :: (Predicate.any (r :: qs)).lexemes := by
  have hor : Lexeme.read " OR " = [.word "OR"] := rfl
  simp [Predicate.lexemes, Predicate.tokens, Predicate.tokensList, Token.join, hor, Token.lexemes]

variable {V : Type} {tests : Tests V} {row : RowValues V}

/-- A conjunction is added to the present one. -/
theorem run_all {qs : List (Predicate Nat)} {ps : List (Predicate Scalar)} (hne : qs ≠ [])
    (h : List.Forall₂ (fun q p => Reads value? q.lexemes (p.truth tests row)) qs ps) (b n : Truth)
    (fs : List Frame) :
    ∃ s, (Predicate.all qs).lexemes.foldlM (step value?) ⟨⟨b, n, false⟩, fs, .operand⟩ = some s ∧
      settle value? s =
        some ⟨⟨b, n.and (Predicate.truthAll tests row ps), false⟩, fs, .behind⟩ := by
  induction h generalizing n with
  | nil => exact absurd rfl hne
  | @cons q p qs ps hq hqs ih =>
    obtain ⟨s, hrun, hsettle⟩ := hq ⟨b, n, false⟩ fs
    cases hqs with
    | nil =>
      refine ⟨s, hrun, hsettle.trans ?_⟩
      rw [Predicate.truthAll, Predicate.truthAll, Truth.and_true]
      rfl
    | @cons r p' qs ps hr hqs =>
      -- The connective settles the test in front of it before the next one is read.
      obtain ⟨s', hrun', hsettle'⟩ := ih (by simp) (n.and (p.truth tests row))
      refine ⟨s', ?_, ?_⟩
      · rw [lexemes_all_cons, List.foldlM_append, hrun]
        show (step value? s (.word "AND") >>= _) = _
        rw [step_of_settle hsettle rfl]
        exact hrun'
      · rw [hsettle', Truth.and_assoc]
        rfl

/-- A choice is the value of its clause. -/
theorem run_any {qs : List (Predicate Nat)} {ps : List (Predicate Scalar)} (hne : qs ≠ [])
    (h : List.Forall₂ (fun q p => Reads value? q.lexemes (p.truth tests row)) qs ps) (b : Truth)
    (fs : List Frame) :
    ∃ s g, (Predicate.any qs).lexemes.foldlM (step value?) ⟨⟨b, some true, false⟩, fs, .operand⟩ =
        some s ∧ settle value? s = some ⟨g, fs, .behind⟩ ∧
      g.value = b.or (Predicate.truthAny tests row ps) := by
  induction h generalizing b with
  | nil => exact absurd rfl hne
  | @cons q p qs ps hq hqs ih =>
    obtain ⟨s, hrun, hsettle⟩ := hq ⟨b, some true, false⟩ fs
    cases hqs with
    | nil =>
      refine ⟨s, _, hrun, hsettle, ?_⟩
      rw [Predicate.truthAny, Predicate.truthAny, Truth.or_false]
      rfl
    | @cons r p' qs ps hr hqs =>
      obtain ⟨s', g, hrun', hsettle', hvalue⟩ := ih (by simp) (b.or (p.truth tests row))
      refine ⟨s', g, ?_, hsettle', ?_⟩
      · rw [lexemes_any_cons, List.foldlM_append, hrun]
        show (step value? s (.word "OR") >>= _) = _
        rw [step_of_settle hsettle rfl]
        exact hrun'
      · rw [hvalue, Truth.or_assoc]
        rfl

/-- A clause in parentheses is an operand with the value of the clause. -/
theorem reads_parens {q : Predicate Nat} {t : Truth}
    (h : ∀ fs, ∃ s g, q.lexemes.foldlM (step value?) ⟨.fresh, fs, .operand⟩ = some s ∧
      settle value? s = some ⟨g, fs, .behind⟩ ∧ g.value = t) :
    Reads value? (Predicate.parens q).lexemes t := by
  intro f fs
  obtain ⟨s, g, hrun, hsettle, hvalue⟩ := h (f :: fs)
  refine ⟨⟨f.add t, fs, .behind⟩, ?_, rfl⟩
  rw [lexemes_parens]
  show ((q.lexemes ++ [Lexeme.symbol ")"]).foldlM (step value?) ⟨.fresh, f :: fs, .operand⟩) = _
  rw [List.foldlM_append, hrun]
  show (step value? s (.symbol ")") >>= _) = _
  rw [step_of_settle hsettle rfl, ← hvalue]
  rfl

end Reading

/-! ### Predicates -/

section Predicates

variable {V : Type} {tests : Tests V} {row : RowValues V} {params : List Scalar}
  {value? : List Lexeme → Option Truth}

theorem reads_list {qs : List (Predicate Nat)} {ps : List (Predicate Scalar)}
    (h : ∀ q ∈ qs, ∀ {p}, q.fill? params = some p →
      Reads value? q.lexemes (p.truth tests row))
    (hfill : Predicate.fillList? params qs = some ps) :
    List.Forall₂ (fun q p => Reads value? q.lexemes (p.truth tests row)) qs ps := by
  induction qs generalizing ps with
  | nil =>
    cases hfill
    exact .nil
  | cons q qs ih =>
    rw [Predicate.fillList?] at hfill
    obtain ⟨p, hp, hfill⟩ := Option.bind_eq_some_iff.mp hfill
    obtain ⟨ps', hps, hfill⟩ := Option.bind_eq_some_iff.mp hfill
    cases hfill
    exact .cons (h q List.mem_cons_self hp) (ih (fun r hr => h r (List.mem_cons_of_mem q hr)) hps)

/-- A conjunction in parentheses is read as what it says, if its members are. -/
theorem reads_all {qs : List (Predicate Nat)} {p : Predicate Scalar} (hne : qs ≠ [])
    (h : ∀ q ∈ qs, ∀ {p}, q.fill? params = some p → Reads value? q.lexemes (p.truth tests row))
    (hfill : (Predicate.parens (.all qs)).fill? params = some p) :
    Reads value? (Predicate.parens (.all qs)).lexemes (p.truth tests row) := by
  obtain ⟨p', hp', rfl⟩ := Option.map_eq_some_iff.mp hfill
  obtain ⟨ps, hps, rfl⟩ := Option.map_eq_some_iff.mp hp'
  refine reads_parens fun fs => ?_
  obtain ⟨s, hrun, hsettle⟩ := run_all hne (reads_list h hps) (some false) (some true) fs
  exact ⟨s, _, hrun, hsettle, rfl⟩

/-- A choice in parentheses is read as what it says, if its members are. -/
theorem reads_any {qs : List (Predicate Nat)} {p : Predicate Scalar} (hne : qs ≠ [])
    (h : ∀ q ∈ qs, ∀ {p}, q.fill? params = some p → Reads value? q.lexemes (p.truth tests row))
    (hfill : (Predicate.parens (.any qs)).fill? params = some p) :
    Reads value? (Predicate.parens (.any qs)).lexemes (p.truth tests row) := by
  obtain ⟨p', hp', rfl⟩ := Option.map_eq_some_iff.mp hfill
  obtain ⟨ps, hps, rfl⟩ := Option.map_eq_some_iff.mp hp'
  refine reads_parens fun fs => ?_
  obtain ⟨s, g, hrun, hsettle, hvalue⟩ := run_any hne (reads_list h hps) (some false) fs
  exact ⟨s, g, hrun, hsettle, hvalue⟩

theorem reads_isTest {q : Predicate Nat} {p : Predicate Scalar} (h : q.IsTest)
    (hfill : q.fill? params = some p) :
    Reads (valueOf tests row params) q.lexemes (p.truth tests row) := by
  refine reads_test h ?_
  rw [valueOf, h.test?_lexemes]
  show (q.fill? params >>= _) = _
  rw [hfill]
  rfl

/-- **A legible predicate is read as what it says.** -/
theorem reads_legible {q : Predicate Nat} {p : Predicate Scalar} (h : q.Legible)
    (hfill : q.fill? params = some p) :
    Reads (valueOf tests row params) q.lexemes (p.truth tests row) := by
  induction h generalizing p with
  | test h => exact reads_isTest h hfill
  | not h =>
    obtain ⟨p', hp', rfl⟩ := Option.map_eq_some_iff.mp hfill
    rw [lexemes_not]
    exact reads_not (reads_isTest h hp')
  | all hne _ ih => exact reads_all hne ih hfill
  | any hne _ ih => exact reads_any hne ih hfill

end Predicates

/-- A conjunction of legible predicates is evaluated to its truth. -/
theorem clause?_all {V : Type} {tests : Tests V} {row : RowValues V} {params : List Scalar}
    {qs : List (Predicate Nat)} {ps : List (Predicate Scalar)} (hne : qs ≠ [])
    (h : ∀ q ∈ qs, q.Legible) (hfill : Predicate.fillList? params qs = some ps) :
    clause? (valueOf tests row params) (Predicate.all qs).lexemes =
      some (Predicate.truthAll tests row ps) := by
  obtain ⟨s, hrun, hsettle⟩ := run_all hne
    (reads_list (fun q hq _ hp => reads_legible (h q hq) hp) hfill) (some false) (some true) []
  show ((Predicate.all qs).lexemes.foldlM (step (valueOf tests row params))
    (State.mk ⟨some false, some true, false⟩ [] .operand) >>= _) = _
  rw [hrun]
  show (settle _ s >>= _) = _
  rw [hsettle]
  rfl

end Clause

/-! ## The statement of a count -/

/-- The tokens of a count before its clause. -/
def countTokens (index : String) : List Token :=
  [.word "SELECT ", .word "COUNT(", .word "*", .word ")", .word " AS ", .name "totalnb",
    .word " FROM ", .name index]

theorem tokens_countStatement (c : Collection) (filter : List (Predicate Scalar)) :
    (Draft.countStatement c filter).query.tokens =
      countTokens c.index ++ (Selection.mk filter []).tokens := by
  show _ ++ (Selection.mk filter []).tokens ++ [] ++ [] ++ [] = _
  rw [List.append_nil, List.append_nil, List.append_nil]
  rfl

theorem behindWhere?_countTokens (index : String) (ls : List Lexeme) :
    Clause.behindWhere? ((countTokens index).flatMap Token.lexemes ++ ls) =
      Clause.behindWhere? ls := by
  have hlexemes : (countTokens index).flatMap Token.lexemes =
      [.word "SELECT", .word "COUNT", .symbol "(", .symbol "*", .symbol ")", .word "AS",
        .name "totalnb", .word "FROM", .name index] := rfl
  rw [hlexemes]
  simp [Clause.behindWhere?]

/-- **The text of a count says what its filter says.** -/
theorem keeps?_countStatement {V : Type} (tests : Tests V) (row : RowValues V) (c : Collection)
    {filter : List (Predicate Scalar)} (h : ∀ p ∈ filter, p.Legible) :
    keeps? tests row (Draft.countStatement c filter).sql (Draft.countStatement c filter).params =
      some (Predicate.truthAll tests row filter) := by
  have hfill : Predicate.fillList? (Draft.countStatement c filter).params
      (Predicate.numberList 1 filter) = some filter :=
    Selection.fillList?_filter ⟨filter, []⟩
  have hnumbered : (Selection.mk filter []).numbered = Predicate.numberList 1 filter :=
    List.append_nil _
  have hlegible : ∀ q ∈ Predicate.numberList 1 filter, q.Legible := by
    intro q hq
    obtain ⟨p, hp, n, rfl⟩ := Predicate.exists_of_mem_numberList hq
    exact (h p hp).number n
  have hclean : ∀ e ∈ Predicate.exprsList filter, e.Clean := by
    intro e he
    obtain ⟨p, hp, he⟩ := Predicate.mem_exprsList.mp he
    exact (h p hp).clean_exprs e he
  have hreadable : Token.Readable (Draft.countStatement c filter).query.tokens :=
    (RowQuery.clean_tokens (Draft.clean_totals c hclean (by simp))).toReadable
  rw [keeps?, Statement.sql, Token.lexemes_textOf hreadable, tokens_countStatement,
    List.flatMap_append, behindWhere?_countTokens, Selection.tokens, hnumbered]
  -- Without a filter there is no `WHERE` to read, and every row is counted.
  by_cases hne : filter = []
  · subst hne
    rfl
  · have hnumbers := Predicate.numberList_ne_nil hne 1
    rw [if_neg (by simpa using hnumbers)]
    exact Clause.clause?_all hnumbers hlegible hfill

end GeoFacet.Sql
