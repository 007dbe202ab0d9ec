import GeoFacet.Date.Pattern
import GeoFacet.Proofs.Outcome
import Mathlib.Algebra.Group.Nat.Even

/-!
# The directive form of date patterns

A pattern is translated by a scanner, and its directive form is read by another grammar, in which a
percent sign begins a directive. Here both sides are stated without the scanner: a pattern is
spelled by runs of a letter, by quoted texts and by other characters (`DatePattern.Spells`), and a
directive form is read from left to right (`DatePattern.readDirectives?`). What is read is what the
parts of the pattern stand for, so no literal ever becomes a part of a field.

A pattern is refused exactly if a quote is left open or a letter outside quotes names no field
(`DatePattern.exists_error_scan`). The scanner stands in a run when it meets the letter behind it,
so the induction is over all places of the scanner.

Main statement: `translate_reads_back`.
-/

namespace GeoFacet

/-! ## Reading the directive form -/

namespace DateField

/-- The field that a letter names behind a percent sign. -/
def ofDirective? : Char → Option DateField
  | 'Y' => some year
  | 'y' => some shortYear
  | 'm' => some month
  | 'b' => some shortMonthName
  | 'B' => some monthName
  | 'd' => some day
  | 'j' => some dayOfYear
  | 'H' => some hour
  | 'I' => some hour12
  | 'M' => some minute
  | 'S' => some second
  | 'p' => some halfDay
  | 'a' => some shortWeekdayName
  | 'A' => some weekdayName
  | 'z' => some offset
  | _ => none

/-- The letters whose runs are fields. -/
def letters : List Char :=
  ['y', 'Y', 'u', 'M', 'd', 'D', 'H', 'h', 'm', 's', 'S', 'a', 'E', 'Z']

theorem ofRun?_eq_none_iff {letter : Char} {length : Nat} :
    ofRun? letter length = none ↔ letter ∉ letters := by
  unfold ofRun?
  split <;> simp_all [letters]

end DateField

namespace DatePattern

/-- The items of a directive form. A percent sign begins a directive, two stand for one, and any
other character stands for itself. -/
def readDirectives? : List Char → Option (List DateItem)
  | [] => some []
  | '%' :: '%' :: rest => (readDirectives? rest).map (.literal '%' :: ·)
  | '%' :: '3' :: 'f' :: rest => (readDirectives? rest).map (.field .millisecond :: ·)
  | '%' :: letter :: rest =>
    (DateField.ofDirective? letter).bind fun f => (readDirectives? rest).map (.field f :: ·)
  | ['%'] => none
  | c :: rest => (readDirectives? rest).map (.literal c :: ·)

theorem readDirectives?_append (item : DateItem) (rest : List Char) :
    readDirectives? (item.directive ++ rest) = (readDirectives? rest).map (item :: ·) := by
  cases item with
  | field f => cases f <;> rfl
  | literal c =>
    by_cases hpercent : c = '%'
    · rw [hpercent]
      rfl
    · simp [DateItem.directive, hpercent, readDirectives?]

/-- **A directive form is read back as the items that it was written from.** -/
theorem readDirectives?_directives (items : List DateItem) :
    readDirectives? (directives items).toList = some items := by
  rw [directives, String.toList_ofList]
  induction items with
  | nil => rfl
  | cons item rest ih =>
    rw [List.flatMap_cons, readDirectives?_append, ih]
    rfl

/-! ## Parts of a pattern -/

/-- A part of a pattern. -/
inductive Part where
  | run (letter : Char) (length : Nat)
  | quoted (body : List Char)
  | plain (c : Char)

namespace Part

def text : Part → List Char
  | run letter length => List.replicate length letter
  | quoted body => '\'' :: (body ++ ['\''])
  | plain c => [c]

/-- Runs are runs of letters, quotes end at the next quote mark, and all else is neither. -/
def Sound : Part → Prop
  | run letter length => letter.isAlpha = true ∧ 0 < length
  | quoted body => '\'' ∉ body
  | plain c => c ≠ '\'' ∧ c.isAlpha = false

/-- A run ends where its letter does. -/
def EndsAt : Part → List Char → Prop
  | run letter _, rest => rest.head? ≠ some letter
  | quoted _, _ => True
  | plain _, _ => True

instance : DecidablePred Sound
  | run letter length => inferInstanceAs (Decidable (letter.isAlpha = true ∧ 0 < length))
  | quoted body => inferInstanceAs (Decidable ('\'' ∉ body))
  | plain c => inferInstanceAs (Decidable (c ≠ '\'' ∧ c.isAlpha = false))

instance (part : Part) (rest : List Char) : Decidable (part.EndsAt rest) :=
  match part with
  | run letter _ => inferInstanceAs (Decidable (rest.head? ≠ some letter))
  | quoted _ => .isTrue trivial
  | plain _ => .isTrue trivial

/-- What a part stands for: a run for one field, and any other part for its characters without the
quote marks. -/
def items? : Part → Option (List DateItem)
  | run letter length => (DateField.ofRun? letter length).map fun f => [.field f]
  | quoted body => some (body.map .literal)
  | plain c => some [.literal c]

end Part

/-- A pattern is spelled by its maximal runs, its quoted texts and its other characters. -/
inductive Spells : List Part → List Char → Prop
  | nil : Spells [] []
  | cons (part : Part) {parts : List Part} (rest : List Char) (hpart : part.Sound)
      (hends : part.EndsAt rest) (hrest : Spells parts rest) :
      Spells (part :: parts) (part.text ++ rest)

theorem Spells.exists_cons_letter {parts : List Part} {cs : List Char} (h : Spells parts cs)
    {letter : Char} (hletter : letter.isAlpha = true) : ∃ parts', Spells parts' (letter :: cs) := by
  by_cases hhead : cs.head? = some letter
  · -- the letter makes the run behind it longer
    cases h with
    | nil => cases hhead
    | @cons part parts rest hpart hends hrest =>
      cases part with
      | run letter' length =>
        obtain ⟨length, rfl⟩ := Nat.exists_eq_add_one_of_ne_zero (Nat.ne_of_gt hpart.2)
        cases hhead
        exact ⟨.run letter (length + 2) :: parts,
          .cons (.run letter (length + 2)) rest ⟨hletter, Nat.succ_pos _⟩ hends hrest⟩
      | quoted body =>
        cases hhead
        cases hletter
      | plain c =>
        cases hhead
        rw [hpart.2] at hletter
        cases hletter
  · exact ⟨.run letter 1 :: parts, .cons (.run letter 1) cs ⟨hletter, Nat.one_pos⟩ hhead h⟩

/-- A text is spelled by parts if no quote is left open in it, and else it is once a quote is closed
that was open in front of it. -/
theorem exists_spells (cs : List Char) :
    (Even (cs.count '\'') → ∃ parts, Spells parts cs) ∧
      (¬Even (cs.count '\'') → ∃ body rest parts,
        cs = body ++ '\'' :: rest ∧ '\'' ∉ body ∧ Spells parts rest) := by
  induction cs with
  | nil => exact ⟨fun _ => ⟨[], .nil⟩, fun h => absurd (by decide) h⟩
  | cons c cs ih =>
    obtain ⟨hclosed, hopen⟩ := ih
    -- A quote swaps the two halves of the induction hypothesis.
    by_cases hquote : c = '\''
    · rw [hquote, List.count_cons_self, Nat.even_add_one, not_not]
      constructor
      · intro hodd
        obtain ⟨body, rest, parts, rfl, hbody, hparts⟩ := hopen hodd
        refine ⟨.quoted body :: parts, ?_⟩
        have htext : '\'' :: (body ++ '\'' :: rest) = (Part.quoted body).text ++ rest := by
          simp [Part.text]
        rw [htext]
        exact .cons (.quoted body) rest hbody trivial hparts
      · intro heven
        obtain ⟨parts, hparts⟩ := hclosed heven
        exact ⟨[], cs, parts, rfl, by simp, hparts⟩
    · rw [List.count_cons_of_ne hquote]
      constructor
      · intro heven
        obtain ⟨parts, hparts⟩ := hclosed heven
        by_cases hletter : c.isAlpha = true
        · exact hparts.exists_cons_letter hletter
        · have hplain : (Part.plain c).Sound := ⟨hquote, by simpa using hletter⟩
          exact ⟨.plain c :: parts, .cons (.plain c) cs hplain trivial hparts⟩
      · intro hodd
        obtain ⟨body, rest, parts, rfl, hbody, hparts⟩ := hopen hodd
        exact ⟨c :: body, rest, parts, rfl, by simp [hbody, Ne.symm hquote], hparts⟩

/-! ## The scanner over parts -/

theorem keep_letter {c : Char} (h : c = '\'' ∨ c.isAlpha = true) (rest : Rest) :
    Scan.keep c rest = rest := if_pos h

theorem scan_quoted {body : List Char} (hbody : '\'' ∉ body) (rest : List Char) :
    scan .quoted (body ++ '\'' :: rest) = (scan .outside rest).map (body.map .literal ++ ·) := by
  induction body with
  | nil => cases h : scan .outside rest <;> simp [scan, Scan.emit, Scan.next, h, Except.map]
  | cons c body ih =>
    rw [List.mem_cons, not_or] at hbody
    obtain ⟨hc, hbody⟩ := hbody
    rw [List.cons_append, scan, Scan.emit, Scan.next, if_neg (Ne.symm hc), if_neg (Ne.symm hc),
      ih hbody]
    cases scan .outside rest <;> rfl

theorem scan_run_replicate (letter : Char) (length more : Nat) (rest : List Char) :
    scan (.run letter length) (List.replicate more letter ++ rest) =
      scan (.run letter (length + more)) rest := by
  induction more generalizing length with
  | zero => rfl
  | succ more ih =>
    rw [List.replicate_succ, List.cons_append, scan, Scan.emit, Scan.next, if_pos rfl, if_pos rfl,
      ih, Nat.add_right_comm, Nat.add_assoc]

/-- A run is closed by whatever is not its letter. -/
theorem scan_run {letter : Char} {rest : List Char} (hends : rest.head? ≠ some letter)
    (length : Nat) :
    scan (.run letter length) rest = Scan.closeRun letter length (scan .outside rest) := by
  cases rest with
  | nil => rfl
  | cons c rest =>
    have hne : c ≠ letter := by simpa using hends
    rw [scan, Scan.emit, Scan.next, if_neg hne, if_neg hne]
    rfl

theorem scan_run_text {letter : Char} {length : Nat} {rest : List Char}
    (hsound : (Part.run letter length).Sound) (hends : rest.head? ≠ some letter) :
    scan .outside ((Part.run letter length).text ++ rest) =
      Scan.closeRun letter length (scan .outside rest) := by
  obtain ⟨more, rfl⟩ := Nat.exists_eq_add_one_of_ne_zero (Nat.ne_of_gt hsound.2)
  have hquote : letter ≠ '\'' := by
    intro heq
    rw [heq] at hsound
    cases hsound.1
  rw [Part.text, List.replicate_succ, List.cons_append, scan, Scan.emit,
    keep_letter (.inr hsound.1), Scan.next, Scan.start, if_neg hquote, if_pos hsound.1,
    scan_run_replicate, Nat.add_comm, scan_run hends]

theorem map_eq_ok {rest : Rest} {f : List DateItem → List DateItem} {items : List DateItem}
    (h : rest.map f = .ok items) : ∃ others, rest = .ok others ∧ items = f others := by
  cases rest with
  | error flaw => cases h
  | ok others =>
    cases h
    exact ⟨others, rfl, rfl⟩

/-- **A part stands for its items, wherever it is.** -/
theorem scan_text_append_eq_ok {part : Part} {rest : List Char} {items : List DateItem}
    (hsound : part.Sound) (hends : part.EndsAt rest)
    (h : scan .outside (part.text ++ rest) = .ok items) :
    ∃ own others, part.items? = some own ∧ scan .outside rest = .ok others ∧
      items = own ++ others := by
  cases part with
  | run letter length =>
    rw [scan_run_text hsound hends, Scan.closeRun] at h
    split at h
    · rename_i f hfield
      obtain ⟨others, hothers, rfl⟩ := map_eq_ok h
      exact ⟨[.field f], others, by simp [Part.items?, hfield], hothers, rfl⟩
    · cases h
  | quoted body =>
    have hscan : scan .outside ((Part.quoted body).text ++ rest) =
        (scan .outside rest).map (body.map .literal ++ ·) := by
      rw [← scan_quoted hsound rest]
      simp [Part.text, scan, Scan.emit, Scan.keep, Scan.next, Scan.start]
    rw [hscan] at h
    obtain ⟨others, hothers, rfl⟩ := map_eq_ok h
    exact ⟨_, others, rfl, hothers, rfl⟩
  | plain c =>
    have hscan : scan .outside ((Part.plain c).text ++ rest) =
        (scan .outside rest).map (.literal c :: ·) := by
      simp [Part.text, scan, Scan.emit, Scan.keep, Scan.next, Scan.start, hsound.1, hsound.2]
    rw [hscan] at h
    obtain ⟨others, hothers, rfl⟩ := map_eq_ok h
    exact ⟨_, others, rfl, hothers, rfl⟩

theorem Spells.items_eq {parts : List Part} {cs : List Char} (hparts : Spells parts cs)
    {items : List DateItem} (h : scan .outside cs = .ok items) :
    ∃ own, List.Forall₂ (fun part is => part.items? = some is) parts own ∧ items = own.flatten := by
  induction hparts generalizing items with
  | nil =>
    cases h
    exact ⟨[], .nil, rfl⟩
  | cons part rest hpart hends hrest ih =>
    obtain ⟨is, others, his, hothers, rfl⟩ := scan_text_append_eq_ok hpart hends h
    obtain ⟨own, hown, rfl⟩ := ih hothers
    exact ⟨is :: own, .cons his hown, rfl⟩

/-! ## Refused patterns -/

/-- A letter of which no run is a field. -/
def Unsupported (c : Char) : Prop := c.isAlpha = true ∧ c ∉ DateField.letters

/-- A text that begins outside quotes, or inside, leaves a quote open or has an unsupported letter
outside quotes. -/
def Flawed (inside : Bool) (cs : List Char) : Prop :=
  ¬Even (inside.toNat + cs.count '\'') ∨
    ∃ before c after, cs = before ++ c :: after ∧ Even (inside.toNat + before.count '\'') ∧
      Unsupported c

theorem not_unsupported_quote : ¬Unsupported '\'' := by
  intro h
  cases h.1

theorem flawed_nil (inside : Bool) : Flawed inside [] ↔ inside = true := by
  cases inside <;> simp [Flawed]

theorem flawed_cons {inside : Bool} {c : Char} {cs : List Char} :
    Flawed inside (c :: cs) ↔
      (inside = false ∧ Unsupported c) ∨ Flawed (if c = '\'' then !inside else inside) cs := by
  -- Counting a quote and starting behind it flip the parity alike.
  have hparity (before : List Char) :
      Even (inside.toNat + (c :: before).count '\'') ↔
        Even ((if c = '\'' then !inside else inside).toNat + before.count '\'') := by
    by_cases hquote : c = '\''
    · rw [if_pos hquote, hquote, List.count_cons_self]
      cases inside <;> simp [Nat.even_add_one, Nat.add_comm 1]
    · rw [if_neg hquote, List.count_cons_of_ne hquote]
  unfold Flawed
  rw [hparity]
  constructor
  · rintro (hodd | ⟨before, c', after, hcs, heven, hunsupported⟩)
    · exact .inr (.inl hodd)
    · cases before with
      | nil =>
        cases hcs
        refine .inl ⟨?_, hunsupported⟩
        cases inside with
        | false => rfl
        | true => simp at heven
      | cons d before =>
        cases hcs
        exact .inr (.inr ⟨before, c', after, rfl, (hparity before).mp heven, hunsupported⟩)
  · rintro (⟨rfl, hunsupported⟩ | hodd | ⟨before, c', after, rfl, heven, hunsupported⟩)
    · exact .inr ⟨[], c, cs, rfl, by simp, hunsupported⟩
    · exact .inl hodd
    · exact .inr ⟨c :: before, c', after, rfl, (hparity before).mpr heven, hunsupported⟩

/-- Whether a place of the scanner is inside quotes. -/
def Scan.isQuoted : Scan → Bool
  | .quoted => true
  | _ => false

/-- A run is a run of a letter. -/
def Scan.Sound : Scan → Prop
  | .run letter _ => letter.isAlpha = true
  | _ => True

/-- A place of the scanner stands in a run of no field. -/
def Scan.Doomed : Scan → Prop
  | .run letter _ => letter ∉ DateField.letters
  | _ => False

/-- Where a character leads that continues no run. -/
theorem Scan.start_cases (c : Char) :
    (c = '\'' ∧ start c = .quoted) ∨
      (c ≠ '\'' ∧ c.isAlpha = true ∧ start c = .run c 1) ∨
      (c ≠ '\'' ∧ c.isAlpha = false ∧ start c = .outside) := by
  unfold start
  by_cases hquote : c = '\''
  · simp [hquote]
  · by_cases hletter : c.isAlpha = true
    · simp [hquote, hletter]
    · simp [hquote, hletter]

theorem Scan.sound_start (c : Char) : (start c).Sound := by
  rcases start_cases c with ⟨-, h⟩ | ⟨-, hletter, h⟩ | ⟨-, -, h⟩
  · simp [h, Sound]
  · simp [h, Sound, hletter]
  · simp [h, Sound]

theorem Scan.isQuoted_start (c : Char) : (start c).isQuoted = decide (c = '\'') := by
  rcases start_cases c with ⟨hquote, h⟩ | ⟨hquote, -, h⟩ | ⟨hquote, -, h⟩
  · rw [h]
    simp [hquote, isQuoted]
  · rw [h]
    simp [hquote, isQuoted]
  · rw [h]
    simp [hquote, isQuoted]

theorem Scan.doomed_start (c : Char) : (start c).Doomed ↔ Unsupported c := by
  rcases start_cases c with ⟨hquote, h⟩ | ⟨-, hletter, h⟩ | ⟨-, hletter, h⟩
  · rw [h]
    simp [hquote, Doomed, not_unsupported_quote]
  · simp [h, hletter, Doomed, Unsupported]
  · simp [h, hletter, Doomed, Unsupported]

theorem exists_error_map {rest : Rest} {f : List DateItem → List DateItem} :
    (∃ flaw, rest.map f = .error flaw) ↔ ∃ flaw, rest = .error flaw := by
  cases rest <;> simp [Except.map]

theorem exists_error_keep {c : Char} {rest : Rest} :
    (∃ flaw, Scan.keep c rest = .error flaw) ↔ ∃ flaw, rest = .error flaw := by
  unfold Scan.keep
  split
  · exact Iff.rfl
  · exact exists_error_map

theorem exists_error_closeRun {letter : Char} {length : Nat} {rest : Rest} :
    (∃ flaw, Scan.closeRun letter length rest = .error flaw) ↔
      letter ∉ DateField.letters ∨ ∃ flaw, rest = .error flaw := by
  unfold Scan.closeRun
  cases hfield : DateField.ofRun? letter length with
  | none => simp [DateField.ofRun?_eq_none_iff.mp hfield]
  | some f =>
    have hletter : ¬letter ∉ DateField.letters := by
      intro hmem
      have hnone : DateField.ofRun? letter length = none := DateField.ofRun?_eq_none_iff.mpr hmem
      rw [hfield] at hnone
      cases hnone
    rw [exists_error_map]
    simp only [hletter, false_or]

/-- **What the scanner refuses**, from every place of it. -/
theorem exists_error_scan (place : Scan) (hplace : place.Sound) (cs : List Char) :
    (∃ flaw, scan place cs = .error flaw) ↔ place.Doomed ∨ Flawed place.isQuoted cs := by
  induction cs generalizing place with
  | nil =>
    rw [flawed_nil]
    cases place with
    | outside => simp [scan, Scan.finish, Scan.Doomed, Scan.isQuoted]
    | quoted => simp [scan, Scan.finish, Scan.Doomed, Scan.isQuoted]
    | run letter length =>
      rw [scan, Scan.finish, exists_error_closeRun]
      simp [Scan.Doomed, Scan.isQuoted]
  | cons c cs ih =>
    -- Outside of quotes and runs the scan goes on as from a fresh start.
    have hstart : (∃ flaw, Scan.keep c (scan (Scan.start c) cs) = .error flaw) ↔
        Flawed false (c :: cs) := by
      rw [exists_error_keep, ih _ (Scan.sound_start c), Scan.doomed_start, Scan.isQuoted_start,
        flawed_cons]
      by_cases hquote : c = '\''
      · simp [hquote]
      · simp [hquote]
    cases place with
    | outside =>
      rw [scan, Scan.emit, Scan.next, hstart]
      simp [Scan.Doomed, Scan.isQuoted]
    | quoted =>
      rw [scan, Scan.emit, Scan.next, flawed_cons]
      by_cases hquote : c = '\''
      · rw [if_pos hquote, if_pos hquote, ih .outside trivial]
        simp [Scan.Doomed, Scan.isQuoted, hquote]
      · rw [if_neg hquote, if_neg hquote, exists_error_map, ih .quoted trivial]
        simp [Scan.Doomed, Scan.isQuoted, hquote]
    | run letter length =>
      rw [scan, Scan.emit, Scan.next]
      -- A run that goes on keeps its letter; one that ends is closed before the next starts.
      by_cases hsame : c = letter
      · have hquote : letter ≠ '\'' := by
          intro heq
          rw [heq] at hplace
          cases hplace
        have halpha : letter.isAlpha = true := hplace
        rw [if_pos hsame, if_pos hsame, ih (.run letter _) halpha,
          flawed_cons, hsame, if_neg hquote]
        simp only [Scan.Doomed, Scan.isQuoted, Unsupported, halpha, true_and, or_self_left]
      · rw [if_neg hsame, if_neg hsame, exists_error_closeRun, hstart]
        rfl

/-- The directive form of a pattern. -/
def translate (pattern : String) : Outcome String := (items pattern).map directives

theorem exists_error_translate {pattern : String} :
    (∃ fault, translate pattern = .error fault) ↔ Flawed false pattern.toList := by
  have hscan := exists_error_scan .outside trivial pattern.toList
  simp only [Scan.Doomed, Scan.isQuoted, false_or] at hscan
  rw [← hscan, translate, items]
  cases hitems : scan .outside pattern.toList with
  | ok is => simp [Except.map]
  | error flaw =>
    cases flaw with
    | unterminated => simp [Except.map, refuse]
    | letter c => simp [Except.map, refuse]

theorem scan_of_translate {pattern out : String} (h : translate pattern = .ok out) :
    ∃ is, scan .outside pattern.toList = .ok is ∧ directives is = out := by
  obtain ⟨is, his, hout⟩ := Outcome.map_eq_ok.mp h
  refine ⟨is, ?_, hout⟩
  unfold items at his
  split at his
  · rename_i is' hscan
    cases his
    exact hscan
  · cases his
  · cases his

/-- **The translation of date patterns is faithful.** A pattern is refused exactly if it leaves a
quote open, or has a letter of no field outside quotes. The directive form of any other pattern is
read from left to right as what the parts of the pattern stand for, in their order: one field for
each maximal run of a letter outside quotes, by its letter and its length, and one literal for each
remaining character but the quote marks. -/
theorem translate_reads_back (pattern : String) :
    ((∃ fault, translate pattern = .error fault) ↔
      ¬Even (pattern.toList.count '\'') ∨
        ∃ before c after, pattern.toList = before ++ c :: after ∧ Even (before.count '\'') ∧
          Unsupported c) ∧
      ∀ out, translate pattern = .ok out →
        (∃ parts, Spells parts pattern.toList) ∧
        ∀ parts, Spells parts pattern.toList → ∃ own,
          List.Forall₂ (fun part is => part.items? = some is) parts own ∧
            readDirectives? out.toList = some own.flatten := by
  have hflawed : Flawed false pattern.toList ↔ ¬Even (pattern.toList.count '\'') ∨
      ∃ before c after, pattern.toList = before ++ c :: after ∧ Even (before.count '\'') ∧
        Unsupported c := by
    simp [Flawed]
  refine ⟨exists_error_translate.trans hflawed, ?_⟩
  intro out hout
  constructor
  · apply (exists_spells pattern.toList).1
    -- Had the quotes no partner, the pattern would have been refused.
    by_contra hodd
    obtain ⟨fault, hfault⟩ := exists_error_translate.mpr (hflawed.mpr (.inl hodd))
    cases hout.symm.trans hfault
  · intro parts hparts
    obtain ⟨is, hscan, rfl⟩ := scan_of_translate hout
    obtain ⟨own, hown, rfl⟩ := hparts.items_eq hscan
    exact ⟨own, hown, readDirectives?_directives own.flatten⟩

/-- Days, a quoted text with a percent sign, month names and another percent sign. -/
theorem translate_reads_back_percent :
    let parts : List Part := [.run 'd' 2, .quoted ['Y', '%'], .run 'M' 3, .plain '%']
    translate "dd'Y%'MMM%" = .ok "%dY%%%b%%" ∧ Spells parts "dd'Y%'MMM%".toList ∧
      (∃ own, List.Forall₂ (fun part is => part.items? = some is) parts own ∧
        readDirectives? "%dY%%%b%%".toList = some own.flatten) ∧
      (∃ fault, translate "dd'Y%'MMM'" = .error fault) ∧
      ∃ fault, translate "'x'x" = .error fault := by
  intro parts
  have htranslate : translate "dd'Y%'MMM%" = .ok "%dY%%%b%%" := by rfl
  have hspells : Spells parts "dd'Y%'MMM%".toList := by
    refine .cons (.run 'd' 2) "'Y%'MMM%".toList (by decide) (by decide) ?_
    refine .cons (.quoted ['Y', '%']) "MMM%".toList (by decide) (by decide) ?_
    refine .cons (.run 'M' 3) "%".toList (by decide) (by decide) ?_
    exact .cons (.plain '%') [] (by decide) (by decide) .nil
  refine ⟨htranslate, hspells, ((translate_reads_back _).2 _ htranslate).2 parts hspells,
    (translate_reads_back _).1.mpr (.inl (by decide)),
    (translate_reads_back _).1.mpr (.inr ⟨"'x'".toList, 'x', [], by decide, by decide, ?_⟩)⟩
  exact ⟨by decide, by decide⟩

end DatePattern

end GeoFacet
