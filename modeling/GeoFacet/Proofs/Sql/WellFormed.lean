import GeoFacet.Proofs.Filter.Conditions
import GeoFacet.Proofs.Sql.Binding

/-!
# Well-formed clauses

A clause is read from left to right with two things in mind: whether an operand must come next, and
how many parentheses are open. An empty pair of parentheses, a comma or a connective without an
operand on either side and a parenthesis without its partner are all found that way
(`Lexeme.isComplete`). A predicate without empty lists is written as an operand of such a clause
(`Predicate.WellFormed.isOperand_tokens`).
-/

namespace GeoFacet.Sql

/-! ## Complete clauses -/

namespace Lexeme

/-- Whether a lexeme stands between two operands. -/
def isBinary : Lexeme → Bool
  | .symbol s => s = "," || s = "=" || s = "<" || s = "<=" || s = ">" || s = ">="
  | .word s => s = "AND" || s = "OR" || s = "LIKE" || s = "ILIKE"
  | _ => false

/-- Whether some lexemes end a clause, with the number of open parentheses and whether an operand
must come next. -/
def isComplete (expects : Bool) (depth : Nat) : List Lexeme → Bool
  | [] => !expects && depth = 0
  | l :: ls =>
    if l = .symbol "(" then isComplete true (depth + 1) ls
    else if l = .symbol ")" then !expects && 0 < depth && isComplete false (depth - 1) ls
    else if l.isBinary then !expects && isComplete true depth ls
    else isComplete (l = .word "NOT") depth ls

/-- **No parentheses are empty in a complete clause.** -/
theorem not_parens_of_isComplete {expects : Bool} {depth : Nat} {ls : List Lexeme}
    (h : isComplete expects depth ls = true) : ¬[.symbol "(", .symbol ")"] <:+: ls := by
  rintro ⟨before, behind, rfl⟩
  rw [List.append_assoc] at h
  induction before generalizing expects depth with
  | nil => simp [isComplete] at h
  | cons l before ih =>
    rw [List.cons_append, isComplete] at h
    split at h
    · exact ih h
    · split at h
      · exact ih (Bool.and_eq_true _ _ ▸ h).2
      · split at h
        · exact ih (Bool.and_eq_true _ _ ▸ h).2
        · exact ih h

/-- Wherever they stand, the lexemes are read as an operand. -/
def Operand (ls : List Lexeme) : Prop :=
  ∀ expects depth rest, isComplete expects depth (ls ++ rest) = isComplete false depth rest

variable {ls ms : List Lexeme} {l : Lexeme}

/-- An operand by itself is a complete clause. -/
theorem Operand.isComplete (h : Operand ls) : isComplete true 0 ls = true := by
  have hread := h true 0 []
  rw [List.append_nil] at hread
  rw [hread]
  rfl

theorem Operand.join (hl : Operand ls) (hm : Operand ms) (hbinary : l.isBinary = true) :
    Operand (ls ++ l :: ms) := by
  intro expects depth rest
  have hopen : l ≠ .symbol "(" := by
    rintro rfl
    exact absurd hbinary (by decide)
  have hclose : l ≠ .symbol ")" := by
    rintro rfl
    exact absurd hbinary (by decide)
  rw [List.append_assoc, hl, List.cons_append, Lexeme.isComplete, if_neg hopen, if_neg hclose,
    if_pos hbinary, hm]
  rfl

theorem Operand.parens (h : Operand ls) : Operand (.symbol "(" :: ls ++ [.symbol ")"]) := by
  intro expects depth rest
  rw [List.cons_append, List.cons_append, List.append_assoc, Lexeme.isComplete, if_pos rfl, h,
    List.singleton_append, Lexeme.isComplete, if_neg (by decide), if_pos rfl]
  simp

theorem Operand.not (h : Operand ls) : Operand (.word "NOT" :: ls) := by
  intro expects depth rest
  rw [List.cons_append, Lexeme.isComplete, if_neg (by decide), if_neg (by decide),
    if_neg (by decide), h]

/-- A lexeme that is neither a parenthesis nor an operator. -/
def IsPlain (l : Lexeme) : Prop :=
  l ≠ .symbol "(" ∧ l ≠ .symbol ")" ∧ l.isBinary = false ∧ l ≠ .word "NOT"

instance (l : Lexeme) : Decidable l.IsPlain := by unfold IsPlain; infer_instance

theorem isPlain_name (s : String) : (name s).IsPlain := by simp [IsPlain, isBinary]

theorem isPlain_placeholder (n : Nat) : (placeholder n).IsPlain := by simp [IsPlain, isBinary]

theorem IsPlain.isComplete (h : l.IsPlain) (expects : Bool) (depth : Nat) (rest : List Lexeme) :
    Lexeme.isComplete expects depth (l :: rest) = Lexeme.isComplete false depth rest := by
  obtain ⟨hopen, hclose, hbinary, hnot⟩ := h
  rw [Lexeme.isComplete, if_neg hopen, if_neg hclose, hbinary, decide_eq_false hnot]
  rfl

theorem IsPlain.operand (h : l.IsPlain) : Operand [l] := fun expects depth rest =>
  h.isComplete expects depth rest

/-- Plain lexemes may stand before an operand, as the name of a function does. -/
theorem Operand.cons (h : Operand ls) (hl : l.IsPlain) : Operand (l :: ls) := by
  intro expects depth rest
  rw [List.cons_append, hl.isComplete, h]

/-- Plain lexemes may stand behind an operand, as the type of a cast does. -/
theorem Operand.append (h : Operand ls) (hms : ∀ m ∈ ms, m.IsPlain) : Operand (ls ++ ms) := by
  intro expects depth rest
  rw [List.append_assoc, h]
  induction ms with
  | nil => rfl
  | cons m ms ih =>
    rw [List.cons_append, (hms m List.mem_cons_self).isComplete]
    exact ih fun n hn => hms n (List.mem_cons_of_mem m hn)

theorem operand_of_isPlain (hne : ls ≠ []) (h : ∀ l ∈ ls, l.IsPlain) : Operand ls := by
  obtain ⟨l, ms, rfl⟩ := List.exists_cons_of_ne_nil hne
  exact (h l List.mem_cons_self).operand.append fun m hm => h m (List.mem_cons_of_mem l hm)

/-! ## Numbers -/

theorem isPlain_of_digits {read : List Char} (h : ∀ c ∈ read, c.isDigit = true) :
    (word (String.ofList read.reverse)).IsPlain := by
  have hother {s : String} {c : Char} (hc : c ∈ s.toList) (hdigit : c.isDigit = false) :
      String.ofList read.reverse ≠ s := by
    rintro rfl
    rw [String.toList_ofList, List.mem_reverse] at hc
    rw [h c hc] at hdigit
    cases hdigit
  have hand := hother (s := "AND") (c := 'A') (by decide) rfl
  have hor := hother (s := "OR") (c := 'O') (by decide) rfl
  have hlike := hother (s := "LIKE") (c := 'L') (by decide) rfl
  have hilike := hother (s := "ILIKE") (c := 'L') (by decide) rfl
  have hnot := hother (s := "NOT") (c := 'N') (by decide) rfl
  simp [IsPlain, isBinary, hand, hor, hlike, hilike, hnot]

/-- Whether the reader is between two lexemes or inside a number. -/
inductive Reading.InNumber : Reading → Prop
  | between : InNumber .between
  | word {read : List Char} (h : ∀ c ∈ read, c.isDigit = true) : InNumber (.word read)

/-- A character of a number begins a word or is a lexeme of its own. -/
theorem start_number {c : Char} (hc : c.isDigit = true ∨ c = '.' ∨ c = '-') :
    (c.isDigit = true ∧ start c = ([], .word [c])) ∨
      isWordChar c = false ∧ ∃ l : Lexeme, l.IsPlain ∧ start c = ([l], .between) := by
  rcases hc with hdigit | rfl | rfl
  · have hother {d : Char} (hd : d.isDigit = false) : c ≠ d := by
      rintro rfl
      rw [hdigit] at hd
      cases hd
    have hword : isWordChar c = true := by simp [isWordChar, Char.isAlphanum, hdigit]
    refine .inl ⟨hdigit, ?_⟩
    rw [start, if_neg (hother rfl), if_neg (hother rfl), if_neg (hother rfl),
      if_neg (not_or.mpr ⟨hother rfl, hother rfl⟩), if_pos hword]
  · exact .inr ⟨rfl, .symbol ".", by decide, rfl⟩
  · exact .inr ⟨rfl, .symbol "-", by decide, rfl⟩

theorem step_number {r : Reading} (hr : r.InNumber) {c : Char}
    (hc : c.isDigit = true ∨ c = '.' ∨ c = '-') :
    (∀ l ∈ (step r c).1, l.IsPlain) ∧ (step r c).2.InNumber := by
  have hstart := start_number hc
  cases hr with
  | between =>
    rw [step]
    rcases hstart with ⟨hdigit, hstart⟩ | ⟨-, l, hl, hstart⟩
    · rw [hstart]
      exact ⟨by simp, .word (by simpa using hdigit)⟩
    · rw [hstart]
      exact ⟨by simpa using hl, .between⟩
  | @word read h =>
    rw [step]
    rcases hstart with ⟨hdigit, -⟩ | ⟨hword, l, hl, hstart⟩
    · rw [if_pos (by simp [isWordChar, Char.isAlphanum, hdigit])]
      exact ⟨by simp, .word (List.forall_mem_cons.mpr ⟨hdigit, h⟩)⟩
    · rw [if_neg (by simp [hword]), restart, hstart, pending]
      refine ⟨?_, .between⟩
      rintro l' (_ | ⟨_, _ | ⟨_, hl'⟩⟩)
      · exact isPlain_of_digits h
      · exact hl
      · cases hl'

/-- The characters of a number are read as plain lexemes. -/
theorem isPlain_of_mem_finish {r : Reading} (hr : r.InNumber) {cs : List Char}
    (hcs : ∀ c ∈ cs, c.isDigit = true ∨ c = '.' ∨ c = '-') : ∀ l ∈ finish r cs, l.IsPlain := by
  induction cs generalizing r with
  | nil =>
    intro l hl
    cases hr with
    | between => cases hl
    | word h =>
      rw [List.mem_singleton.mp hl]
      exact isPlain_of_digits h
  | cons c cs ih =>
    obtain ⟨hstep, hr'⟩ := step_number hr (hcs c List.mem_cons_self)
    intro l hl
    rw [finish, run, List.append_assoc] at hl
    rcases List.mem_append.mp hl with hl | hl
    · exact hstep l hl
    · exact ih hr' (fun d hd => hcs d (List.mem_cons_of_mem c hd)) l hl

theorem finish_word_ne_nil (read cs : List Char) : finish (.word read) cs ≠ [] := by
  induction cs generalizing read with
  | nil => simp [finish, run, pending]
  | cons c cs ih =>
    rw [finish, run, step, List.append_assoc]
    by_cases hword : isWordChar c = true
    · rw [if_pos hword]
      exact ih (c :: read)
    · rw [if_neg hword]
      simp [restart, pending]

/-- A number is read as an operand. -/
theorem operand_number {cs : List Char} (hne : cs ≠ [])
    (hcs : ∀ c ∈ cs, c.isDigit = true ∨ c = '.' ∨ c = '-') : Operand (read (String.ofList cs)) := by
  rw [read, String.toList_ofList]
  refine operand_of_isPlain ?_ (isPlain_of_mem_finish .between hcs)
  obtain ⟨c, cs, rfl⟩ := List.exists_cons_of_ne_nil hne
  rw [finish, run, step, List.append_assoc]
  rcases start_number (hcs c List.mem_cons_self) with ⟨-, hstart⟩ | ⟨-, l, -, hstart⟩
  · rw [hstart]
    exact finish_word_ne_nil [c] cs
  · rw [hstart]
    exact List.cons_ne_nil l _

/-- A double is read as plain lexemes, whether it is a number or not. -/
theorem isPlain_of_mem_plainText (x : Float) : ∀ l ∈ read (plainText x), l.IsPlain := by
  rcases plainText_cases x with hword | ⟨cs, hcs, -, hnumerals⟩
  · simp only [List.mem_cons, List.not_mem_nil, or_false] at hword
    rcases hword with hword | hword | hword <;> rw [hword] <;> decide
  · rw [hcs, read, String.toList_ofList]
    exact isPlain_of_mem_finish .between hnumerals

/-- A double is read as an operand, whether it is a number or not. -/
theorem operand_plainText (x : Float) : Operand (read (plainText x)) := by
  rcases plainText_cases x with hword | ⟨cs, hcs, hne, hnumerals⟩
  · simp only [List.mem_cons, List.not_mem_nil, or_false] at hword
    rcases hword with hword | hword | hword <;> rw [hword] <;>
      exact operand_of_isPlain (by decide) (by decide)
  · rw [hcs]
    exact operand_number hne hnumerals

end Lexeme

/-! ## Runs of tokens -/

namespace Token

open Lexeme (Operand read isPlain_name isPlain_placeholder)

/-- The lexemes of a run are read as an operand. -/
def IsOperand (ts : List Token) : Prop := Operand (ts.flatMap lexemes)

theorem isOperand_name (s : String) : IsOperand [name s] := (isPlain_name s).operand

theorem isOperand_placeholder (n : Nat) : IsOperand [placeholder n] :=
  (isPlain_placeholder n).operand

/-- Two operands with an operator between them. -/
theorem IsOperand.binary {ts us : List Token} (ht : IsOperand ts) (hu : IsOperand us) {s : String}
    {l : Lexeme} (hs : read s = [l]) (hl : l.isBinary = true) : IsOperand (ts ++ word s :: us) := by
  rw [IsOperand, List.flatMap_append, List.flatMap_cons, lexemes, hs]
  exact ht.join hu hl

theorem isOperand_join {tss : List (List Token)} (hne : tss ≠ []) (h : ∀ ts ∈ tss, IsOperand ts)
    {s : String} {l : Lexeme} (hs : read s = [l]) (hl : l.isBinary = true) :
    IsOperand (join s tss) := by
  induction tss with
  | nil => exact absurd rfl hne
  | cons ts tss ih =>
    cases tss with
    | nil => exact h ts List.mem_cons_self
    | cons us tss =>
      have hrest := ih (List.cons_ne_nil us tss) fun vs hvs => h vs (List.mem_cons_of_mem ts hvs)
      exact (h ts List.mem_cons_self).binary hrest hs hl

/-- An operand in parentheses, with what may stand before them and plain lexemes at their end. -/
theorem IsOperand.between {ts : List Token} (h : IsOperand ts) {opening closing : String}
    (before last : List Lexeme) (hopening : read opening = before ++ [.symbol "("])
    (hbefore : ∀ {ls}, Operand ls → Operand (before ++ ls))
    (hclosing : read closing = last ++ [.symbol ")"]) (hlast : ∀ l ∈ last, l.IsPlain) :
    IsOperand (between opening closing ts) := by
  have hall := hbefore (Operand.append h hlast).parens
  simpa [IsOperand, Token.between, lexemes, hopening, hclosing] using hall

theorem isOperand_word {s : String} (h : Operand (read s)) : IsOperand [word s] := by
  rw [IsOperand, List.flatMap_singleton, lexemes]
  exact h

end Token

open Token (IsOperand isOperand_name isOperand_placeholder isOperand_word isOperand_join)

namespace Expr

theorem isOperand_column (c : String) : IsOperand (column c).tokens := isOperand_name c

/-- The expression of a sort key is an operand. -/
theorem isOperand_ofSortKey (centroidPath : String) (key : SortKey) :
    IsOperand (ofSortKey centroidPath key).tokens := by
  have hcast {ts : List Token} (h : IsOperand ts) :
      IsOperand (Token.between "CAST(" " AS geography)" ts) :=
    h.between [.word "CAST"] [.word "AS", .word "geography"] rfl (fun h => h.cons (by decide)) rfl
      (by decide)
  have hcall {f : String} (hf : Lexeme.read (f ++ "(") = [.word f, .symbol "("])
      (hplain : (Lexeme.word f).IsPlain) {a b : List Token} (ha : IsOperand a)
      (hb : IsOperand b) : IsOperand (Token.between (f ++ "(") ")" (Token.join ", " [a, b])) :=
    (ha.binary hb (s := ", ") rfl rfl).between [.word f] [] hf (fun h => h.cons hplain) rfl
      (by simp)
  cases key with
  | field name o => exact isOperand_name name
  | distance lat lon o =>
    have hpoint := hcall (f := "ST_MakePoint") rfl (by decide)
      (isOperand_word (Lexeme.operand_plainText lon)) (isOperand_word (Lexeme.operand_plainText lat))
    have hcode : IsOperand [.word (toString 4326)] :=
      isOperand_word (Lexeme.operand_of_isPlain (by decide) (by decide))
    have hplace := hcall (f := "ST_SetSRID") rfl (by decide) hpoint hcode
    exact hcall (f := "ST_Distance") rfl (by decide) (hcast (isOperand_name centroidPath))
      (hcast hplace)

end Expr

/-! ## Predicates -/

namespace Predicate

variable {α : Type}

/-- A predicate whose lists are not empty and whose expressions are operands. -/
inductive WellFormed : Predicate α → Prop
  | isNull (c : String) : WellFormed (.isNull c)
  | notNull (c : String) : WellFormed (.notNull c)
  | equal {e : Expr} (he : IsOperand e.tokens) (v : α) : WellFormed (.equal e v)
  | compare {e : Expr} (he : IsOperand e.tokens) (op : Comparison) (v : α) :
    WellFormed (.compare e op v)
  | isOneOf (c : String) {vs : List α} (hne : vs ≠ []) : WellFormed (.isOneOf c vs)
  | isNoneOf (c : String) {vs : List α} (hne : vs ≠ []) : WellFormed (.isNoneOf c vs)
  | like {e : Expr} (he : IsOperand e.tokens) (v : α) : WellFormed (.like e v)
  | likeAnyCase {e : Expr} (he : IsOperand e.tokens) (v : α) : WellFormed (.likeAnyCase e v)
  | spatial (r : SpatialRelation) (c : String) (v : α) : WellFormed (.spatial r c v)
  | not {p : Predicate α} (h : WellFormed p) : WellFormed (.not p)
  | all {ps : List (Predicate α)} (hne : ps ≠ []) (h : ∀ p ∈ ps, WellFormed p) :
    WellFormed (.all ps)
  | any {ps : List (Predicate α)} (hne : ps ≠ []) (h : ∀ p ∈ ps, WellFormed p) :
    WellFormed (.any ps)
  | parens {p : Predicate α} (h : WellFormed p) : WellFormed (.parens p)

theorem IsTest.wellFormed {p : Predicate α} (h : p.IsTest) : p.WellFormed := by
  cases h with
  | isNull c => exact .isNull c
  | notNull c => exact .notNull c
  | equal c v => exact .equal (Expr.isOperand_column c) v
  | compare c op v => exact .compare (Expr.isOperand_column c) op v
  | isOneOf c hne => exact .isOneOf c hne
  | isNoneOf c hne => exact .isNoneOf c hne
  | like c v => exact .like (Expr.isOperand_column c) v
  | likeAnyCase c v =>
    have hcast : IsOperand (Expr.cast (.column c) "TEXT").tokens :=
      (Expr.isOperand_column c).between [.word "CAST"] [.word "AS", .word "TEXT"] rfl
        (fun h => h.cons (by decide)) rfl (by decide)
    exact .likeAnyCase hcast v
  | spatial r c v => exact .spatial r c v

/-- What a filter is compiled to is well-formed. -/
theorem Legible.wellFormed {p : Predicate α} (h : p.Legible) : p.WellFormed := by
  induction h with
  | test h => exact h.wellFormed
  | not h => exact .not h.wellFormed
  | all hne _ ih => exact .parens (.all hne ih)
  | any hne _ ih => exact .parens (.any hne ih)

/-- Numbering leaves a predicate well-formed. -/
theorem WellFormed.number {p : Predicate α} (h : p.WellFormed) (n : Nat) :
    (p.number n).WellFormed := by
  induction h generalizing n with
  | isNull c => exact .isNull c
  | notNull c => exact .notNull c
  | equal he v => exact .equal he n
  | compare he op v => exact .compare he op n
  | isOneOf c hne => exact .isOneOf c (by simpa using hne)
  | isNoneOf c hne => exact .isNoneOf c (by simpa using hne)
  | like he v => exact .like he n
  | likeAnyCase he v => exact .likeAnyCase he n
  | spatial r c v => exact .spatial r c n
  | not _ ih => exact .not (ih n)
  | parens _ ih => exact .parens (ih n)
  | all hne _ ih =>
    refine .all (numberList_ne_nil hne n) fun q hq => ?_
    obtain ⟨p, hp, m, rfl⟩ := exists_of_mem_numberList hq
    exact ih p hp m
  | any hne _ ih =>
    refine .any (numberList_ne_nil hne n) fun q hq => ?_
    obtain ⟨p, hp, m, rfl⟩ := exists_of_mem_numberList hq
    exact ih p hp m

theorem isOperand_placeholders {ns : List Nat} (hne : ns ≠ []) :
    IsOperand (placeholders ns) := by
  refine isOperand_join (by simpa using hne) (fun ts hts => ?_) (l := .symbol ",") rfl rfl
  obtain ⟨n, -, rfl⟩ := List.mem_map.mp hts
  exact isOperand_placeholder n

theorem tokensList_eq (qs : List (Predicate Nat)) : tokensList qs = qs.map tokens := by
  induction qs with
  | nil => rfl
  | cons q qs ih => rw [tokensList, ih, List.map_cons]

theorem isOperand_tokensList {qs : List (Predicate Nat)} (hne : qs ≠ [])
    (h : ∀ q ∈ qs, IsOperand q.tokens) {s : String} {l : Lexeme} (hs : Lexeme.read s = [l])
    (hl : l.isBinary = true) : IsOperand (Token.join s (tokensList qs)) := by
  rw [tokensList_eq]
  refine isOperand_join (by simpa using hne) (fun ts hts => ?_) hs hl
  obtain ⟨q, hq, rfl⟩ := List.mem_map.mp hts
  exact h q hq

/-- **A well-formed predicate is written as an operand.** -/
theorem WellFormed.isOperand_tokens {q : Predicate Nat} (h : q.WellFormed) :
    IsOperand q.tokens := by
  induction h with
  | isNull c => exact (isOperand_name c).append (by decide)
  | notNull c =>
    have hnull : Lexeme.Operand [.word "NULL"] := Lexeme.IsPlain.operand (by decide)
    exact (hnull.not.cons (l := .word "IS") (by decide)).cons (Lexeme.isPlain_name c)
  | equal he n => exact he.binary (isOperand_placeholder n) rfl rfl
  | compare he op n => cases op <;> exact he.binary (isOperand_placeholder n) rfl rfl
  | @isOneOf c ns hne =>
    have hlist : IsOperand (Token.between " IN (" ")" (placeholders ns)) :=
      (isOperand_placeholders hne).between [.word "IN"] [] rfl (fun h => h.cons (by decide)) rfl
        (by simp)
    exact hlist.cons (Lexeme.isPlain_name c)
  | @isNoneOf c ns hne =>
    have hlist : IsOperand (Token.between " NOT IN (" ")" (placeholders ns)) :=
      (isOperand_placeholders hne).between [.word "NOT", .word "IN"] [] rfl
        (fun h => (h.cons (by decide)).not) rfl (by simp)
    exact hlist.cons (Lexeme.isPlain_name c)
  | like he n => exact he.binary (isOperand_placeholder n) rfl rfl
  | likeAnyCase he n => exact he.binary (isOperand_placeholder n) rfl rfl
  | spatial r c n =>
    have hcode : Lexeme.Operand [.word "4326"] := Lexeme.IsPlain.operand (by decide)
    have hshape := ((isOperand_placeholder n).join hcode (l := .symbol ",") rfl).parens.cons
      (l := .word "ST_GeomFromText") (by decide)
    have hplaces := ((isOperand_name c).join hshape (l := .symbol ",") rfl).parens
    cases r with
    | within => exact hplaces.cons (l := .word "ST_Within") (by decide)
    | intersects => exact hplaces.cons (l := .word "ST_Intersects") (by decide)
  | not _ ih => exact ih.not
  | parens _ ih => exact ih.between [] [] rfl id rfl (by simp)
  | all hne _ ih => exact isOperand_tokensList hne ih rfl rfl
  | any hne _ ih => exact isOperand_tokensList hne ih rfl rfl

theorem wellFormed_keysetBranches (centroidPath : String) {equals : List (Predicate Scalar)}
    (h : ∀ p ∈ equals, p.WellFormed) (keys : List (SortKey × Scalar)) :
    ∀ p ∈ keysetBranches centroidPath equals keys, p.WellFormed := by
  induction keys generalizing equals with
  | nil => simp [keysetBranches]
  | cons key keys ih =>
    obtain ⟨key, v⟩ := key
    have hkey := Expr.isOperand_ofSortKey centroidPath key
    have hadd {p : Predicate Scalar} (hp : p.WellFormed) : ∀ q ∈ equals ++ [p], q.WellFormed := by
      intro q hq
      rcases List.mem_append.mp hq with hq | hq
      · exact h q hq
      · rwa [List.mem_singleton.mp hq]
    rw [keysetBranches, List.forall_mem_cons]
    exact ⟨.parens (.all (by simp) (hadd (.compare hkey _ v))), ih (hadd (.equal hkey v))⟩

/-- The keyset of at least one key is well-formed. -/
theorem wellFormed_keyset (centroidPath : String) {keys : List (SortKey × Scalar)}
    (hne : keys ≠ []) : (keyset centroidPath keys).WellFormed := by
  refine .parens (.any ?_ (wellFormed_keysetBranches centroidPath (by simp) keys))
  obtain ⟨key, keys, rfl⟩ := List.exists_cons_of_ne_nil hne
  exact List.cons_ne_nil _ _

end Predicate

/-! ## Statements -/

namespace Selection

/-- The text of the clause. -/
def clause (s : Selection) : String := Token.textOf s.tokens

/-- The clause of well-formed predicates is complete. -/
theorem isComplete_clause {s : Selection} (hclean : s.Clean)
    (h : ∀ p ∈ s.filter ++ s.further, p.WellFormed) : Lexeme.read s.clause = [] ∨
      ∃ ls, Lexeme.read s.clause = .word "WHERE" :: ls ∧ Lexeme.isComplete true 0 ls = true := by
  have hread : Lexeme.read s.clause = s.tokens.flatMap Token.lexemes :=
    Token.lexemes_textOf (hclean.append Token.clean_nil).toReadable
  have hnumbered : ∀ q ∈ s.numbered, q.WellFormed := by
    intro q hq
    rcases List.mem_append.mp hq with hq | hq
    · obtain ⟨p, hp, n, rfl⟩ := Predicate.exists_of_mem_numberList hq
      exact (h p (List.mem_append_left _ hp)).number n
    · obtain ⟨p, hp, n, rfl⟩ := Predicate.exists_of_mem_numberList hq
      exact (h p (List.mem_append_right _ hp)).number n
  rw [hread, tokens]
  by_cases hempty : s.numbered.isEmpty = true
  · rw [if_pos hempty]
    exact .inl rfl
  · have hall : (Predicate.all s.numbered).WellFormed := .all (by simpa using hempty) hnumbered
    rw [if_neg hempty]
    exact .inr ⟨_, rfl, hall.isOperand_tokens.isComplete⟩

end Selection

/-- The clause of a query stands in its text as it is. -/
theorem Query.tokens_selection (q : Query) : q.selection.tokens <:+: q.tokens := by
  have hbefore {ts us : List Token} (vs : List Token) (h : ts <:+: us) : ts <:+: us ++ vs :=
    h.trans (List.prefix_append us vs).isInfix
  have hbehind {ts us : List Token} (vs : List Token) (h : ts <:+: us) : ts <:+: vs ++ us :=
    h.trans (List.suffix_append vs us).isInfix
  cases q with
  | rows q => exact hbefore _ (hbefore _ (hbefore _ (hbehind _ (List.infix_refl _))))
  | level q =>
    have hgrouped : q.selection.tokens <:+: q.groupedTokens :=
      hbefore _ (hbehind _ (List.infix_refl _))
    have hranked : q.selection.tokens <:+: q.rankedTokens := hbefore _ (hbehind _ hgrouped)
    exact hbefore _ (hbefore _ (hbefore _ (List.infix_cons hranked)))

/-- A statement whose predicates are well-formed and whose clause is complete, as they are written
in its text. -/
structure Statement.WellFormed (s : Statement) : Prop where
  predicates : ∀ p ∈ s.query.selection.filter ++ s.query.selection.further, p.WellFormed
  written : ∃ before behind, s.sql = before ++ s.query.selection.clause ++ behind
  complete : Lexeme.read s.query.selection.clause = [] ∨
    ∃ ls, Lexeme.read s.query.selection.clause = .word "WHERE" :: ls ∧
      Lexeme.isComplete true 0 ls = true
  parens : ¬[.symbol "(", .symbol ")"] <:+: Lexeme.read s.query.selection.clause

theorem Statement.wellFormed {s : Statement} (hclean : s.query.Clean)
    (h : ∀ p ∈ s.query.selection.filter ++ s.query.selection.further, p.WellFormed) :
    s.WellFormed := by
  have hselection : s.query.selection.Clean := by
    cases hquery : s.query with
    | rows q =>
      rw [hquery] at hclean
      exact hclean.selection
    | level q =>
      rw [hquery] at hclean
      exact hclean.selection
  have hcomplete := Selection.isComplete_clause hselection h
  refine ⟨h, ?_, hcomplete, ?_⟩
  · obtain ⟨before, behind, htokens⟩ := s.query.tokens_selection
    refine ⟨Token.textOf before, Token.textOf behind, ?_⟩
    rw [Statement.sql, ← htokens, Token.textOf_append, Token.textOf_append, Selection.clause]
  · -- An empty clause holds no parentheses, and a complete one none without an operand.
    rcases hcomplete with hempty | ⟨ls, hread, hls⟩
    · rw [hempty, List.infix_nil]
      exact List.cons_ne_nil _ _
    · rw [hread, List.infix_cons_iff]
      rintro (hstart | hinside)
      · simp at hstart
      · exact Lexeme.not_parens_of_isComplete hls hinside

end GeoFacet.Sql
