import GeoFacet.Sql.Token
import Mathlib.Data.List.Chain

/-!
# Reading the lexemes of a statement

The text of a statement is read from left to right into words, quoted names, placeholders and
symbols. Text that was written from tokens is read back token by token (`lexemes_textOf`), wherever
a token that ends in the middle of a lexeme is followed by one that begins with a separator.
-/

namespace GeoFacet.Sql

/-- The smallest parts of a statement. -/
inductive Lexeme where
  /-- letters, digits and underscores -/
  | word (text : String)
  /-- a name without its quotes -/
  | name (name : String)
  | placeholder (n : Nat)
  | symbol (text : String)
  deriving DecidableEq, Repr

namespace Lexeme

/-! ## The reader -/

/-- What was read of the present lexeme, the last character first. -/
inductive Reading where
  | between
  | word (read : List Char)
  /-- inside the quotes of a name -/
  | name (read : List Char)
  /-- behind a quote that ends the name unless another one follows -/
  | quote (read : List Char)
  | placeholder (digits : List Char)
  /-- behind an angle bracket -/
  | angle (bracket : Char)
  deriving DecidableEq, Repr

def isWordChar (c : Char) : Bool := c.isAlphanum || c = '_'

/-- The lexeme that ends here. An open name is none. -/
def pending : Reading → List Lexeme
  | .between => []
  | .word read => [.word (String.ofList read.reverse)]
  | .name _ => [.symbol "unclosed"]
  | .quote read => [.name (String.ofList read.reverse)]
  | .placeholder digits => [.placeholder (Nat.ofDigitChars 10 digits.reverse 0)]
  | .angle bracket => [.symbol (String.ofList [bracket])]

/-- Reads the first character of a lexeme. -/
def start (c : Char) : List Lexeme × Reading :=
  if c = ' ' then ([], .between)
  else if c = '"' then ([], .name [])
  else if c = '$' then ([], .placeholder [])
  else if c = '<' ∨ c = '>' then ([], .angle c)
  else if isWordChar c then ([], .word [c])
  else ([.symbol (String.ofList [c])], .between)

/-- Ends the present lexeme and reads the first character of another one. -/
def restart (r : Reading) (c : Char) : List Lexeme × Reading :=
  (pending r ++ (start c).1, (start c).2)

/-- Reads one character. -/
def step : Reading → Char → List Lexeme × Reading
  | .between, c => start c
  | .word read, c => if isWordChar c then ([], .word (c :: read)) else restart (.word read) c
  | .name read, c => if c = '"' then ([], .quote read) else ([], .name (c :: read))
  | .quote read, c => if c = '"' then ([], .name (c :: read)) else restart (.quote read) c
  | .placeholder digits, c =>
    if c.isDigit then ([], .placeholder (c :: digits)) else restart (.placeholder digits) c
  | .angle bracket, c =>
    if c = '=' then ([.symbol (String.ofList [bracket, c])], .between)
    else restart (.angle bracket) c

/-- Reads some characters. -/
def run : Reading → List Char → List Lexeme × Reading
  | r, [] => ([], r)
  | r, c :: cs => ((step r c).1 ++ (run (step r c).2 cs).1, (run (step r c).2 cs).2)

/-- The lexemes up to the end of the text. -/
def finish (r : Reading) (cs : List Char) : List Lexeme := (run r cs).1 ++ pending (run r cs).2

/-- The lexemes of a text. -/
def read (text : String) : List Lexeme := finish .between text.toList

theorem run_append (r : Reading) (cs ds : List Char) :
    run r (cs ++ ds) =
      ((run r cs).1 ++ (run (run r cs).2 ds).1, (run (run r cs).2 ds).2) := by
  induction cs generalizing r with
  | nil => rfl
  | cons c cs ih => rw [List.cons_append, run, ih, run, List.append_assoc]

theorem finish_append (r : Reading) (cs ds : List Char) :
    finish r (cs ++ ds) = (run r cs).1 ++ finish (run r cs).2 ds := by
  rw [finish, run_append, finish, List.append_assoc]

/-! ## Separators -/

/-- The characters that end any lexeme but a name. -/
def isSeparator (c : Char) : Bool := c = ' ' || c = ')' || c = ','

/-- Whether the reader is inside a name. -/
def Reading.isOpen : Reading → Bool
  | .name _ => true
  | _ => false

theorem step_separator {r : Reading} {c : Char} (hr : r.isOpen = false) (hc : isSeparator c) :
    step r c = restart r c := by
  have hword : isWordChar c = false ∧ c.isDigit = false ∧ c ≠ '"' ∧ c ≠ '=' := by
    rw [isSeparator, Bool.or_eq_true, Bool.or_eq_true, decide_eq_true_eq, decide_eq_true_eq,
      decide_eq_true_eq] at hc
    rcases hc with (rfl | rfl) | rfl <;> decide
  obtain ⟨hword, hdigit, hquote, hequal⟩ := hword
  cases r with
  | between => rfl
  | word read => rw [step, hword]; rfl
  | name read => cases hr
  | quote read => rw [step, if_neg hquote]
  | placeholder digits => rw [step, hdigit]; rfl
  | angle bracket => rw [step, if_neg hequal]

/-- A separator ends the present lexeme. -/
theorem finish_separator {r : Reading} {c : Char} (hr : r.isOpen = false) (hc : isSeparator c)
    (cs : List Char) : finish r (c :: cs) = pending r ++ finish .between (c :: cs) := by
  rw [finish, run, step_separator hr hc, finish, run, step, restart]
  simp

end Lexeme

/-! ## Tokens -/

namespace Token

open Lexeme (Reading read run finish pending start step isSeparator)

/-- The lexemes of a token by itself. -/
def lexemes : Token → List Lexeme
  | .word s => read s
  | .name s => [.name s]
  | .placeholder n => [.placeholder n]

/-- Whether a token begins with a separator. -/
def opens : Token → Bool
  | .word s => s.toList.head?.any isSeparator
  | _ => false

/-- Whether a token ends between two lexemes. -/
def closes : Token → Bool
  | .word s => (run .between s.toList).2 = .between
  | _ => false

/-- Words have no quotes. -/
def Plain : Token → Prop
  | .word s => '"' ∉ s.toList
  | _ => True

instance (t : Token) : Decidable t.Plain := by
  cases t <;> unfold Plain <;> infer_instance

/-- Two tokens that may stand beside each other. -/
def Adjacent (t u : Token) : Prop := t.closes ∨ u.opens

theorem isOpen_step {r : Reading} {c : Char} (hr : r.isOpen = false) (hc : c ≠ '"') :
    (step r c).2.isOpen = false := by
  have hstart : (start c).2.isOpen = false := by
    rw [start]
    split
    · rfl
    · split
      · rfl
      · split
        · rfl
        · split <;> rfl
  cases r with
  | between => exact hstart
  | name read => cases hr
  | word read => rw [step]; split; exacts [rfl, hstart]
  | quote read => rw [step, if_neg hc]; exact hstart
  | placeholder digits => rw [step]; split; exacts [rfl, hstart]
  | angle bracket => rw [step]; split; exacts [rfl, hstart]

theorem isOpen_run {r : Reading} {cs : List Char} (hr : r.isOpen = false) (hcs : '"' ∉ cs) :
    (run r cs).2.isOpen = false := by
  induction cs generalizing r with
  | nil => exact hr
  | cons c cs ih =>
    rw [List.mem_cons, not_or] at hcs
    exact ih (isOpen_step hr (Ne.symm hcs.1)) hcs.2

/-- The characters of a name are read up to its last quote. -/
theorem run_quoted (read cs : List Char) :
    run (.name read) (cs.flatMap (fun c => if c = '"' then ['"', '"'] else [c]) ++ ['"']) =
      ([], .quote (cs.reverse ++ read)) := by
  induction cs generalizing read with
  | nil => rfl
  | cons c cs ih =>
    rw [List.flatMap_cons, List.append_assoc, List.reverse_cons, List.append_assoc,
      List.singleton_append, ← ih (c :: read)]
    by_cases hc : c = '"'
    · subst hc
      rfl
    · rw [if_neg hc, List.singleton_append, run, step, if_neg hc]
      rfl

theorem run_digits {digits : List Char} (h : ∀ c ∈ digits, c.isDigit) (read : List Char) :
    run (.placeholder read) digits = ([], .placeholder (digits.reverse ++ read)) := by
  induction digits generalizing read with
  | nil => rfl
  | cons c cs ih =>
    rw [run, step, if_pos (h c List.mem_cons_self), ih fun d hd => h d (List.mem_cons_of_mem c hd)]
    simp

/-- A token alone is read as its lexemes. -/
theorem run_text (t : Token) (ht : t.Plain) :
    (run .between t.text.toList).1 ++ pending (run .between t.text.toList).2 = t.lexemes ∧
      (run .between t.text.toList).2.isOpen = false := by
  cases t with
  | word s => exact ⟨rfl, isOpen_run rfl ht⟩
  | name s =>
    have hrun : run .between (quote s).toList = ([], .quote s.toList.reverse) := by
      rw [quote, String.toList_ofList, quoteList]
      show run (.name []) (_ ++ ['"']) = _
      rw [run_quoted, List.append_nil]
    rw [text, hrun, List.nil_append, pending, List.reverse_reverse, String.ofList_toList]
    exact ⟨rfl, rfl⟩
  | placeholder n =>
    have hrun : run .between ("$" ++ toString n).toList =
        ([], .placeholder (Nat.toDigits 10 n).reverse) := by
      have hdigits : ∀ c ∈ Nat.toDigits 10 n, c.isDigit := fun c hc =>
        Nat.isDigit_of_mem_toDigits (by decide) (by decide) hc
      rw [String.toList_append, Nat.toString_eq_ofList_toDigits, String.toList_ofList,
        String.toList_ofList]
      show run (.placeholder []) (Nat.toDigits 10 n) = _
      rw [run_digits hdigits, List.append_nil]
    rw [text, hrun, List.nil_append, pending, List.reverse_reverse, Nat.ofDigitChars_ten_toDigits]
    exact ⟨rfl, rfl⟩

theorem finish_textOf {ts : List Token} (hplain : ∀ t ∈ ts, t.Plain)
    (hchain : ts.IsChain Adjacent) {r : Reading} (hr : r.isOpen = false)
    (hjoin : r = .between ∨ ∀ t ∈ ts.head?, t.opens) :
    finish r (textOf ts).toList = pending r ++ ts.flatMap lexemes := by
  induction ts generalizing r with
  | nil => simp [textOf, finish, run]
  | cons t ts ih =>
    obtain ⟨hlexemes, hclosed⟩ := run_text t (hplain t List.mem_cons_self)
    have hrest : finish .between (t.text.toList ++ (textOf ts).toList) =
        t.lexemes ++ ts.flatMap lexemes := by
      rw [Lexeme.finish_append, ih (fun u hu => hplain u (List.mem_cons_of_mem t hu)) hchain.tail
        hclosed ?_, ← List.append_assoc, hlexemes]
      cases ts with
      | nil => exact .inr fun u hu => by cases hu
      | cons u us =>
        refine hchain.rel.imp (fun hcloses => ?_) fun hopens v hv => ?_
        · cases t with
          | word s => exact of_decide_eq_true hcloses
          | name s => cases hcloses
          | placeholder n => cases hcloses
        · cases hv
          exact hopens
    rw [textOf, String.toList_append, List.flatMap_cons]
    -- Unless the reader is between lexemes, the next token begins with what ends one.
    rcases hjoin with rfl | hopens
    · exact hrest
    · have hopens := hopens t rfl
      cases t with
      | name s => cases hopens
      | placeholder n => cases hopens
      | word s =>
        obtain ⟨c, hc, hsep⟩ := (Option.any_eq_true _ _).mp hopens
        obtain ⟨cs, hcs⟩ := List.head?_eq_some_iff.mp hc
        rw [text] at hrest ⊢
        rw [hcs] at hrest ⊢
        rw [List.cons_append] at hrest ⊢
        rw [Lexeme.finish_separator hr hsep, hrest]

/-! ### Runs of tokens -/

theorem textOf_append (ts us : List Token) : textOf (ts ++ us) = textOf ts ++ textOf us := by
  induction ts with
  | nil => rw [List.nil_append, textOf, String.empty_append]
  | cons t ts ih => rw [List.cons_append, textOf, textOf, ih, String.append_assoc]

theorem textOf_join (separator : String) (tss : List (List Token)) :
    textOf (join separator tss) = separator.intercalate (tss.map textOf) := by
  induction tss with
  | nil => rfl
  | cons ts tss ih =>
    cases tss with
    | nil => exact String.intercalate_singleton.symm
    | cons us tss =>
      show textOf (ts ++ word separator :: join separator (us :: tss)) = _
      rw [textOf_append, textOf, ih, ← String.append_assoc]
      exact String.intercalate_cons_cons.symm

/-- A run of tokens whose text is read back. -/
structure Readable (ts : List Token) : Prop where
  plain : ∀ t ∈ ts, t.Plain
  chain : ts.IsChain Adjacent

/-- **Text is read back token by token.** -/
theorem lexemes_textOf {ts : List Token} (h : Readable ts) :
    read (textOf ts) = ts.flatMap lexemes :=
  finish_textOf h.plain h.chain rfl (.inl rfl)

theorem readable_name (s : String) : Readable [.name s] :=
  ⟨by simp [Plain], .singleton _⟩

theorem readable_placeholder (n : Nat) : Readable [.placeholder n] :=
  ⟨by simp [Plain], .singleton _⟩

/-- Words that end between two lexemes may stand before anything. -/
theorem Readable.cons {s : String} {ts : List Token} (h : Readable ts) (hs : (word s).Plain)
    (hcloses : (word s).closes) : Readable (word s :: ts) := by
  refine ⟨?_, List.isChain_cons.mpr ⟨fun t _ => .inl hcloses, h.chain⟩⟩
  rintro t (_ | ⟨_, ht⟩)
  · exact hs
  · exact h.plain t ht

/-- Words that begin with a separator may stand behind anything. -/
theorem Readable.concat {s : String} {ts : List Token} (h : Readable ts) (hs : (word s).Plain)
    (hopens : (word s).opens) : Readable (ts ++ [word s]) := by
  refine ⟨?_, List.isChain_append.mpr ⟨h.chain, .singleton _, ?_⟩⟩
  · intro t ht
    rcases List.mem_append.mp ht with ht | ht
    · exact h.plain t ht
    · rw [List.mem_singleton.mp ht]
      exact hs
  · rintro t - u hu
    cases hu
    exact .inr hopens

/-- A word that does both joins any two runs. -/
theorem Readable.join {s : String} {ts us : List Token} (ht : Readable ts) (hu : Readable us)
    (hs : (word s).Plain) (hopens : (word s).opens) (hcloses : (word s).closes) :
    Readable (ts ++ word s :: us) := by
  have hrest := hu.cons hs hcloses
  refine ⟨?_, List.isChain_append.mpr ⟨ht.chain, hrest.chain, ?_⟩⟩
  · intro t h
    rcases List.mem_append.mp h with h | h
    · exact ht.plain t h
    · exact hrest.plain t h
  · rintro t - u hu
    cases hu
    exact .inr hopens

end Token

end GeoFacet.Sql
