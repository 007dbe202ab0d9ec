import GeoFacet.Proofs.Decimal
import GeoFacet.Proofs.Sql.Lexeme
import GeoFacet.Proofs.Text.WholeNumber
import GeoFacet.Sql.BucketKey

/-!
# Text without placeholders

The text of a statement is read lexeme by lexeme, and a dollar sign outside of a quoted name begins a
placeholder. No word that a statement is written with holds a dollar sign or a quote, so the
placeholders that are read from a run of tokens are those that were written
(`Token.placeholders_textOf`). The expressions of statements are written without any
(`Expr.clean_tokens`).
-/

namespace GeoFacet.Sql

/-! ## Words without placeholders -/

/-- A text that neither opens a name nor begins a placeholder. -/
def Fixed (s : String) : Prop := '"' ∉ s.toList ∧ '$' ∉ s.toList

instance (s : String) : Decidable (Fixed s) := by unfold Fixed; infer_instance

theorem Fixed.append {s t : String} (hs : Fixed s) (ht : Fixed t) : Fixed (s ++ t) := by
  simp only [Fixed, String.toList_append, List.mem_append, not_or]
  exact ⟨⟨hs.1, ht.1⟩, hs.2, ht.2⟩

theorem fixed_of_digits {s : String} (h : ∀ c ∈ s.toList, c.isDigit = true) : Fixed s :=
  ⟨fun hc => absurd (h _ hc) (by decide), fun hc => absurd (h _ hc) (by decide)⟩

theorem fixed_toString (n : Nat) : Fixed (toString n) :=
  fixed_of_digits fun _ => isDigit_of_mem_toString_nat

theorem fixed_plainText (x : Float) : Fixed (plainText x) :=
  ⟨notMem_plainText (by decide) (by decide) x, notMem_plainText (by decide) (by decide) x⟩

namespace Lexeme

/-- The number of a placeholder. -/
def placeholder? : Lexeme → Option Nat
  | .placeholder n => some n
  | _ => none

/-- The placeholders among some lexemes. -/
def placeholders (ls : List Lexeme) : List Nat := ls.filterMap placeholder?

/-- Whether a lexeme is a word or a symbol. -/
def isText : Lexeme → Bool
  | .word _ | .symbol _ => true
  | _ => false

/-- Whether the reader is neither inside a name nor inside a placeholder. -/
def Reading.isFixed : Reading → Bool
  | .name _ | .quote _ | .placeholder _ => false
  | _ => true

theorem all_isText_pending {r : Reading} (hr : r.isFixed) : (pending r).all isText = true := by
  cases r <;> first | rfl | cases hr

theorem start_fixed {c : Char} (hquote : c ≠ '"') (hdollar : c ≠ '$') :
    (start c).1.all isText = true ∧ (start c).2.isFixed := by
  rw [start, if_neg hquote, if_neg hdollar]
  split
  · exact ⟨rfl, rfl⟩
  · split
    · exact ⟨rfl, rfl⟩
    · split <;> exact ⟨rfl, rfl⟩

theorem step_fixed {r : Reading} {c : Char} (hr : r.isFixed) (hquote : c ≠ '"')
    (hdollar : c ≠ '$') : (step r c).1.all isText = true ∧ (step r c).2.isFixed := by
  obtain ⟨hstart, hfixed⟩ := start_fixed hquote hdollar
  -- What was read before is closed, which leaves the start of a new lexeme.
  have hrestart : (restart r c).1.all isText = true ∧ (restart r c).2.isFixed := by
    rw [restart, List.all_append, all_isText_pending hr, hstart]
    exact ⟨rfl, hfixed⟩
  cases r with
  | between => exact ⟨hstart, hfixed⟩
  | word read =>
    rw [step]
    split
    · exact ⟨rfl, rfl⟩
    · exact hrestart
  | angle bracket =>
    rw [step]
    split
    · exact ⟨rfl, rfl⟩
    · exact hrestart
  | name read => cases hr
  | quote read => cases hr
  | placeholder digits => cases hr

theorem run_fixed {r : Reading} {cs : List Char} (hr : r.isFixed) (hquote : '"' ∉ cs)
    (hdollar : '$' ∉ cs) : (run r cs).1.all isText = true ∧ (run r cs).2.isFixed := by
  induction cs generalizing r with
  | nil => exact ⟨rfl, hr⟩
  | cons c cs ih =>
    rw [List.mem_cons, not_or] at hquote hdollar
    obtain ⟨hstep, hr'⟩ := step_fixed hr (Ne.symm hquote.1) (Ne.symm hdollar.1)
    obtain ⟨hrest, hfixed⟩ := ih hr' hquote.2 hdollar.2
    rw [run, List.all_append, hstep, hrest]
    exact ⟨rfl, hfixed⟩

/-- Nothing but words and symbols is read from a fixed text. -/
theorem all_isText_read {s : String} (h : Fixed s) : (read s).all isText = true := by
  obtain ⟨hrun, hfixed⟩ := run_fixed (r := .between) rfl h.1 h.2
  rw [read, finish, List.all_append, hrun, all_isText_pending hfixed]
  rfl

/-- What words and symbols are none of is not read from a fixed text. -/
theorem filterMap_read {α : Type} {f : Lexeme → Option α} (hf : ∀ l, l.isText = true → f l = none)
    {s : String} (h : Fixed s) : (read s).filterMap f = [] := by
  rw [List.filterMap_eq_nil_iff]
  exact fun l hl => hf l (List.all_eq_true.mp (all_isText_read h) l hl)

/-- A parenthesis ends whatever is read but a name. -/
theorem step_paren {r : Reading} (hr : r.isOpen = false) : (step r '(').2 = .between := by
  cases r with
  | name read => cases hr
  | between | word read | quote read | placeholder digits | angle bracket => rfl

end Lexeme

namespace Token

open Lexeme (placeholders)

/-! ## Runs of tokens -/

/-- The number of a placeholder. -/
def placeholder? : Token → Option Nat
  | .placeholder n => some n
  | _ => none

/-- The placeholders of a run. -/
def numbers (ts : List Token) : List Nat := ts.filterMap placeholder?

@[simp] theorem numbers_nil : numbers [] = [] := rfl

@[simp] theorem numbers_word (s : String) (ts : List Token) :
    numbers (word s :: ts) = numbers ts := rfl

@[simp] theorem numbers_name (s : String) (ts : List Token) :
    numbers (name s :: ts) = numbers ts := rfl

@[simp] theorem numbers_append (ts us : List Token) :
    numbers (ts ++ us) = numbers ts ++ numbers us :=
  List.filterMap_append

@[simp] theorem numbers_between (opening closing : String) (ts : List Token) :
    numbers (between opening closing ts) = numbers ts := by
  simp [between]

/-- What no word is comes from the runs that are joined. -/
theorem filterMap_join {α : Type} {f : Token → Option α} (hf : ∀ s, f (word s) = none) (s : String)
    (tss : List (List Token)) : (join s tss).filterMap f = tss.flatMap (List.filterMap f) := by
  induction tss with
  | nil => rfl
  | cons ts tss ih =>
    cases tss with
    | nil => simp [join]
    | cons us tss => simp [join, ih, hf]

@[simp] theorem numbers_join (s : String) (tss : List (List Token)) :
    numbers (join s tss) = tss.flatMap numbers := filterMap_join (fun _ => rfl) s tss

/-- Runs without placeholders are joined to one. -/
theorem numbers_join_eq_nil {α : Type} {f : α → List Token} (h : ∀ a, numbers (f a) = [])
    (s : String) (as : List α) : numbers (join s (as.map f)) = [] := by
  rw [numbers_join, List.flatMap_map, List.flatMap_eq_nil_iff]
  exact fun a _ => h a

/-- A run that is read back, with placeholders where they were written and nowhere else. -/
structure Clean (ts : List Token) : Prop extends Readable ts where
  fixed : ∀ s, word s ∈ ts → Fixed s

/-- The lexeme of a name or a placeholder. -/
def lexeme? : Token → Option Lexeme
  | .word _ => none
  | .name s => some (.name s)
  | .placeholder n => some (.placeholder n)

/-- What no word or symbol is read as comes from the names and placeholders that were written. -/
theorem filterMap_textOf {α : Type} {f : Lexeme → Option α}
    (hf : ∀ l, l.isText = true → f l = none) {ts : List Token} (h : Clean ts) :
    (Lexeme.read (textOf ts)).filterMap f = ts.filterMap fun t => t.lexeme?.bind f := by
  rw [lexemes_textOf h.toReadable]
  have hfixed := h.fixed
  clear h
  induction ts with
  | nil => rfl
  | cons t ts ih =>
    rw [List.flatMap_cons, List.filterMap_append,
      ih fun s hs => hfixed s (List.mem_cons_of_mem t hs)]
    cases t with
    | word s =>
      rw [lexemes, Lexeme.filterMap_read hf (hfixed s List.mem_cons_self)]
      rfl
    | name s => cases hname : f (.name s) <;> simp [lexemes, lexeme?, hname]
    | placeholder n => cases hnumber : f (.placeholder n) <;> simp [lexemes, lexeme?, hnumber]

/-- **The placeholders that are read are those that were written.** -/
theorem placeholders_textOf {ts : List Token} (h : Clean ts) :
    placeholders (Lexeme.read (textOf ts)) = numbers ts := by
  refine (filterMap_textOf (fun l hl => ?_) h).trans (congrArg (List.filterMap · ts) ?_)
  · cases l <;> first | rfl | cases hl
  · funext t
    cases t <;> rfl

/-- Words that may stand before anything. -/
def Opening (s : String) : Prop := Fixed s ∧ (word s).closes = true

/-- Words that may stand behind anything. -/
def Closing (s : String) : Prop := Fixed s ∧ (word s).opens = true

/-- Words that may stand between any two runs. -/
def Joining (s : String) : Prop := Opening s ∧ Closing s

instance (s : String) : Decidable (Opening s) := by unfold Opening; infer_instance

instance (s : String) : Decidable (Closing s) := by unfold Closing; infer_instance

instance (s : String) : Decidable (Joining s) := by unfold Joining; infer_instance

theorem opening_call {f : String} (h : Fixed f) : Opening (f ++ "(") := by
  refine ⟨h.append (by decide), ?_⟩
  have hopen := isOpen_run (r := .between) rfl h.1
  rw [closes, String.toList_append, Lexeme.run_append]
  exact decide_eq_true (Lexeme.step_paren hopen)

theorem closing_append {s : String} (h : Closing s) {t : String} (ht : Fixed t) :
    Closing (s ++ t) := by
  refine ⟨h.1.append ht, ?_⟩
  obtain ⟨c, hc, hsep⟩ := (Option.any_eq_true _ _).mp h.2
  obtain ⟨cs, hcs⟩ := List.head?_eq_some_iff.mp hc
  rw [opens, String.toList_append, hcs]
  exact hsep

theorem clean_nil : Clean [] := ⟨⟨by simp, .nil⟩, by simp⟩

theorem clean_name (s : String) : Clean [name s] := ⟨readable_name s, by simp⟩

theorem clean_placeholder (n : Nat) : Clean [placeholder n] := ⟨readable_placeholder n, by simp⟩

theorem clean_word {s : String} (h : Fixed s) : Clean [word s] :=
  ⟨⟨by simpa [Plain] using h.1, .singleton _⟩, by simpa using h⟩

theorem Clean.cons {s : String} {ts : List Token} (h : Clean ts) (hs : Opening s) :
    Clean (word s :: ts) := by
  refine ⟨h.toReadable.cons hs.1.1 hs.2, fun t ht => ?_⟩
  rcases List.mem_cons.mp ht with ht | ht
  · cases ht
    exact hs.1
  · exact h.fixed t ht

theorem Clean.concat {s : String} {ts : List Token} (h : Clean ts) (hs : Closing s) :
    Clean (ts ++ [word s]) := by
  refine ⟨h.toReadable.concat hs.1.1 hs.2, fun t ht => ?_⟩
  rcases List.mem_append.mp ht with ht | ht
  · exact h.fixed t ht
  · cases List.mem_singleton.mp ht
    exact hs.1

theorem Clean.join {s : String} {ts us : List Token} (ht : Clean ts) (hu : Clean us)
    (hs : Joining s) : Clean (ts ++ word s :: us) := by
  refine ⟨ht.toReadable.join hu.toReadable hs.1.1.1 hs.2.2 hs.1.2, fun t h => ?_⟩
  rcases List.mem_append.mp h with h | h
  · exact ht.fixed t h
  · exact (hu.cons hs.1).fixed t h

theorem Clean.between {opening closing : String} {ts : List Token} (h : Clean ts)
    (hopening : Opening opening) (hclosing : Closing closing) :
    Clean (between opening closing ts) :=
  (h.cons hopening).concat hclosing

theorem Clean.append_unless {p : Prop} [Decidable p] {ts us : List Token} (h : Clean ts)
    (hboth : Clean (ts ++ us)) : Clean (ts ++ if p then [] else us) := by
  by_cases hp : p
  · rwa [if_pos hp, List.append_nil]
  · rwa [if_neg hp]

theorem Clean.append_if {p : Prop} [Decidable p] {ts us : List Token} (h : Clean ts)
    (hboth : Clean (ts ++ us)) : Clean (ts ++ if p then us else []) := by
  by_cases hp : p
  · rwa [if_pos hp]
  · rwa [if_neg hp, List.append_nil]

theorem Clean.append_toList {α : Type} {ts : List Token} (h : Clean ts) {s : α → String}
    (hs : ∀ a, Closing (s a)) (o : Option α) : Clean (ts ++ (o.map fun a => word (s a)).toList) := by
  cases o with
  | none => simpa using h
  | some a => exact h.concat (hs a)

theorem clean_join {s : String} (hs : Joining s) {tss : List (List Token)}
    (h : ∀ ts ∈ tss, Clean ts) : Clean (Token.join s tss) := by
  induction tss with
  | nil => exact clean_nil
  | cons ts tss ih =>
    cases tss with
    | nil => exact h ts List.mem_cons_self
    | cons us tss =>
      exact (h ts List.mem_cons_self).join (ih fun vs hvs => h vs (List.mem_cons_of_mem ts hvs)) hs

end Token

/-! ## Expressions -/

open Token (Joining clean_name clean_word clean_join)

namespace Expr

mutual

/-- The texts of an expression are fixed. -/
def Clean : Expr → Prop
  | .column _ | .star | .whole _ | .tenths _ | .double _ => True
  | .literal text => Fixed text
  | .binary _ left right => left.Clean ∧ right.Clean
  | .parens e | .distinct e | .epoch e | .atUtc e => e.Clean
  | .call function arguments => Fixed function ∧ CleanList arguments
  | .cast e type => Fixed type ∧ e.Clean

def CleanList : List Expr → Prop
  | [] => True
  | e :: rest => e.Clean ∧ CleanList rest

end

mutual

/-- An expression is written without placeholders. -/
theorem numbers_tokens : ∀ e : Expr, Token.numbers e.tokens = []
  | .column _ | .star | .whole _ | .tenths _ | .double _ | .literal _ => rfl
  | .binary op left right => by
    rw [tokens, Token.numbers_append, Token.numbers_word, numbers_tokens left,
      numbers_tokens right, List.append_nil]
  | .parens e | .cast e _ | .epoch e => by
    rw [tokens, Token.numbers_between, numbers_tokens e]
  | .call function arguments => by
    rw [tokens, Token.numbers_between, Token.numbers_join, numbers_tokensList arguments]
  | .distinct e => by
    rw [tokens, Token.numbers_word, numbers_tokens e]
  | .atUtc e => by
    rw [tokens, Token.numbers_append, Token.numbers_word, numbers_tokens e]
    rfl

theorem numbers_tokensList : ∀ es : List Expr, (tokensList es).flatMap Token.numbers = []
  | [] => rfl
  | e :: rest => by
    rw [tokensList, List.flatMap_cons, numbers_tokens e, numbers_tokensList rest, List.append_nil]

end

theorem joining_symbol (op : Arithmetic) : Joining (" " ++ op.symbol ++ " ") := by
  cases op <;> decide

mutual

/-- **An expression with fixed texts is written as a clean run.** -/
theorem clean_tokens : ∀ {e : Expr}, e.Clean → Token.Clean e.tokens
  | .column name, _ => clean_name name
  | .star, _ => clean_word (by decide)
  | .whole n, _ => clean_word (fixed_toString n)
  | .tenths n, _ => clean_word ((fixed_toString n).append (by decide))
  | .double x, _ => clean_word (fixed_plainText x)
  | .literal text, h => clean_word (((by decide : Fixed "'").append h).append (by decide))
  | .binary op left right, h => (clean_tokens h.1).join (clean_tokens h.2) (joining_symbol op)
  | .parens e, h => (clean_tokens (e := e) h).between (by decide) (by decide)
  | .call function arguments, h =>
    (clean_join (by decide) (clean_tokensList h.2)).between (Token.opening_call h.1) (by decide)
  | .distinct e, h => (clean_tokens (e := e) h).cons (by decide)
  | .cast e type, h => (clean_tokens h.2).between (by decide)
    (Token.closing_append (Token.closing_append (by decide) h.1) (by decide))
  | .epoch e, h => (clean_tokens (e := e) h).between (by decide) (by decide)
  | .atUtc e, h => (clean_tokens (e := e) h).concat (by decide)

theorem clean_tokensList : ∀ {es : List Expr}, CleanList es →
    ∀ ts ∈ tokensList es, Token.Clean ts
  | [], _, _, hts => nomatch hts
  | e :: rest, h, ts, hts => by
    rcases List.mem_cons.mp hts with rfl | hts
    · exact clean_tokens h.1
    · exact clean_tokensList h.2 ts hts

end

/-! ### The expressions of statements -/

theorem clean_ofSortKey (centroidPath : String) (key : SortKey) :
    (ofSortKey centroidPath key).Clean := by
  cases key with
  | field name o => trivial
  | distance lat lon o =>
    simp only [ofSortKey, Clean, CleanList, and_true]
    decide

theorem clean_bucketKey {e : Expr} (h : e.Clean) (kind : FacetKind) : (bucketKey e kind).Clean := by
  cases kind with
  | term => exact h
  | histogram interval =>
    simp only [bucketKey, floorTo, Clean, CleanList, h, and_true]
    decide
  | dateHistogram unit multiplier =>
    rw [bucketKey]
    split
    · simp only [floorTo, Clean, CleanList, h, and_true]
      decide
    · simp only [Clean, CleanList, h, and_true]
      cases unit <;> decide
  | geohash precision =>
    simp only [bucketKey, Clean, CleanList, h, and_true]
    decide
  | geotile zoom =>
    simp only [bucketKey, tileKey, tileIndex, clamped, tileEasting, tileDepth, mercatorLatitude,
      Clean, CleanList, h, and_true, true_and]
    decide

end Expr

end GeoFacet.Sql
