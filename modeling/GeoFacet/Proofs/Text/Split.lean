import GeoFacet.Text.Blank
import Mathlib.Data.List.DropRight
import Mathlib.Data.List.TakeWhile

/-!
# Splitting and trimming

Pieces that hold no separator are found again where they stand between separators, and each
separator inside a piece gives one piece more. Trimming takes nothing but white space away, and two
words with a blank between them are read back. Main statements: `split_intercalate`,
`length_split_intercalate`, `trim_of_noSpace`, `trim_trim` and `words_pair`.
-/

namespace GeoFacet.Text

/-! ## Pieces -/

theorem splitList_ne_nil (sep : Char) (cs : List Char) : splitList sep cs ≠ [] := by
  cases cs with
  | nil => simp [splitList]
  | cons c rest =>
    rw [splitList]
    split
    · simp
    · split <;> simp

/-- No piece holds the separator. -/
theorem notMem_of_mem_splitList {sep : Char} {cs piece : List Char}
    (h : piece ∈ splitList sep cs) : sep ∉ piece := by
  induction cs generalizing piece with
  | nil =>
    rw [splitList, List.mem_singleton] at h
    simp [h]
  | cons c rest ih =>
    rw [splitList] at h
    split at h
    · rcases List.mem_cons.mp h with rfl | h
      · exact List.not_mem_nil
      · exact ih h
    · rename_i hc
      split at h
      · rw [List.mem_singleton] at h
        subst h
        simpa using fun heq : sep = c => hc heq.symm
      · rename_i first pieces heq
        rcases List.mem_cons.mp h with rfl | h
        · rw [List.mem_cons, not_or]
          exact ⟨fun h => hc h.symm, ih (heq ▸ List.mem_cons_self)⟩
        · exact ih (heq ▸ List.mem_cons_of_mem first h)

theorem splitList_of_notMem {sep : Char} {cs : List Char} (h : sep ∉ cs) :
    splitList sep cs = [cs] := by
  induction cs with
  | nil => rfl
  | cons c rest ih =>
    rw [List.mem_cons, not_or] at h
    rw [splitList, if_neg (Ne.symm h.1), ih h.2]

theorem splitList_append {sep : Char} {piece : List Char} (h : sep ∉ piece) (rest : List Char) :
    splitList sep (piece ++ sep :: rest) = piece :: splitList sep rest := by
  induction piece with
  | nil => rw [List.nil_append, splitList, if_pos rfl]
  | cons c cs ih =>
    rw [List.mem_cons, not_or] at h
    rw [List.cons_append, splitList, if_neg (Ne.symm h.1), ih h.2]

theorem splitList_intercalate {sep : Char} : ∀ {pieces : List (List Char)}, pieces ≠ [] →
    (∀ p ∈ pieces, sep ∉ p) → splitList sep ([sep].intercalate pieces) = pieces
  | [], hne, _ => (hne rfl).elim
  | [p], _, h => by
    rw [List.intercalate_singleton, splitList_of_notMem (h p List.mem_cons_self)]
  | p :: q :: more, _, h => by
    have ih := splitList_intercalate (List.cons_ne_nil q more) fun r hr =>
      h r (List.mem_cons_of_mem p hr)
    show splitList sep ([sep].intercalate (p :: q :: more)) = _
    simp only [List.intercalate_cons_cons, List.append_assoc, List.cons_append, List.nil_append]
    rw [splitList_append (h p List.mem_cons_self), ih]

/-- Pieces that hold no separator are found again between separators. -/
theorem split_intercalate {pieces : List String} (hne : pieces ≠ [])
    (h : ∀ p ∈ pieces, ',' ∉ p.toList) : split ',' (",".intercalate pieces) = pieces := by
  rw [split, String.toList_intercalate]
  have hsep : ",".toList = [','] := rfl
  rw [hsep, splitList_intercalate (by simpa using hne)]
  · simp
  · intro p hp
    obtain ⟨s, hs, rfl⟩ := List.mem_map.mp hp
    exact h s hs

theorem length_splitList (sep : Char) (cs : List Char) :
    (splitList sep cs).length = cs.count sep + 1 := by
  induction cs with
  | nil => rfl
  | cons c rest ih =>
    rw [splitList, List.count_cons]
    split
    · rename_i hc
      simp [hc, ih]
    · rename_i hc
      simp only [beq_iff_eq, if_neg hc, Nat.add_zero]
      split
      · rename_i heq
        rw [heq] at ih
        cases ih
      · rename_i heq
        rw [heq] at ih
        exact ih

theorem count_intercalate {sep : Char} : ∀ {pieces : List (List Char)}, pieces ≠ [] →
    ([sep].intercalate pieces).count sep + 1 = pieces.length + pieces.flatten.count sep
  | [], hne => (hne rfl).elim
  | [p], _ => by
    simp only [List.intercalate_singleton, List.length_singleton, List.flatten_cons,
      List.flatten_nil, List.append_nil]
    omega
  | p :: q :: more, _ => by
    have ih : ([sep].intercalate (q :: more)).count sep + 1 = _ :=
      count_intercalate (List.cons_ne_nil q more)
    simp only [List.intercalate_cons_cons, List.count_append, List.count_singleton_self,
      List.length_cons, List.flatten_cons] at ih ⊢
    omega

/-- Every separator inside a piece gives one more piece. -/
theorem length_split_intercalate {pieces : List String} (hne : pieces ≠ []) :
    (split ',' (",".intercalate pieces)).length =
      pieces.length + (pieces.flatMap String.toList).count ',' := by
  have hsep : ",".toList = [','] := rfl
  rw [split, List.length_map, length_splitList, String.toList_intercalate, hsep,
    count_intercalate (by simpa using hne), List.length_map, List.flatMap_def]

theorem split_ne_nil (sep : Char) (s : String) : split sep s ≠ [] := by
  rw [split, Ne, List.map_eq_nil_iff]
  exact splitList_ne_nil sep s.toList

theorem notMem_of_mem_split {sep : Char} {s piece : String} (h : piece ∈ split sep s) :
    sep ∉ piece.toList := by
  obtain ⟨cs, hcs, rfl⟩ := List.mem_map.mp h
  rw [String.toList_ofList]
  exact notMem_of_mem_splitList hcs

/-! ## Trimming -/

theorem toList_trim_sublist (s : String) : (trim s).toList.Sublist s.toList := by
  rw [trim, String.toList_ofList, trimList]
  have hback := (List.dropWhile_sublist isSpace (l := (s.toList.dropWhile isSpace).reverse)).reverse
  rw [List.reverse_reverse] at hback
  exact hback.trans (List.dropWhile_sublist isSpace)

theorem mem_of_mem_trim {c : Char} {s : String} (h : c ∈ (trim s).toList) : c ∈ s.toList :=
  (toList_trim_sublist s).mem h

/-- Trimming only shortens, so a text that two trims leave alone is left alone by the first. -/
theorem trim_eq_self_of_trim_trim {s : String} (h : trim (trim s) = s) : trim s = s := by
  have houter := toList_trim_sublist (trim s)
  rw [h] at houter
  exact String.toList_inj.mp
    ((toList_trim_sublist s).eq_of_length_le houter.length_le)

theorem dropWhile_of_none {α : Type} {p : α → Bool} {cs : List α} (h : cs.any p = false) :
    cs.dropWhile p = cs := by
  cases cs with
  | nil => rfl
  | cons c rest =>
    rw [List.any_cons, Bool.or_eq_false_iff] at h
    rw [List.dropWhile_cons_of_neg (by simp [h.1])]

theorem trimList_of_noSpace {cs : List Char} (h : cs.any isSpace = false) : trimList cs = cs := by
  rw [trimList, dropWhile_of_none h, dropWhile_of_none (by rwa [List.any_reverse]),
    List.reverse_reverse]

/-- A text without white space is left as it is. -/
theorem trim_of_noSpace {s : String} (h : s.toList.any isSpace = false) : trim s = s := by
  rw [trim, trimList_of_noSpace h, String.ofList_toList]

theorem dropWhile_of_all {α : Type} {p : α → Bool} {cs : List α} (h : cs.all p) :
    cs.dropWhile p = [] := by
  induction cs with
  | nil => rfl
  | cons c rest ih =>
    rw [List.all_cons, Bool.and_eq_true] at h
    rw [List.dropWhile_cons_of_pos h.1, ih h.2]

/-- A blank text is trimmed to nothing. -/
theorem trim_of_isBlank {s : String} (h : isBlank s) : trim s = "" := by
  rw [trim, trimList, dropWhile_of_all h]
  rfl

/-- Only a blank text is trimmed to nothing. -/
theorem trim_eq_empty_iff {s : String} : trim s = "" ↔ isBlank s = true := by
  refine ⟨fun h => ?_, trim_of_isBlank⟩
  rw [trim, String.ofList_eq_empty_iff, trimList, List.reverse_eq_nil_iff, List.dropWhile_eq_nil_iff]
    at h
  rw [isBlank, List.all_eq_true]
  intro c hc
  rw [← List.takeWhile_append_dropWhile (p := isSpace) (l := s.toList), List.mem_append] at hc
  rcases hc with hc | hc
  · exact List.mem_takeWhile_imp hc
  · exact h c (List.mem_reverse.mpr hc)

/-- A trimmed text is left as it is. -/
theorem trim_trim (s : String) : trim (trim s) = trim s := by
  have hback (cs : List Char) : trimList cs = (cs.dropWhile isSpace).rdropWhile isSpace := rfl
  have hfront : (trimList s.toList).dropWhile isSpace = trimList s.toList := by
    obtain ⟨dropped, hdropped⟩ := List.rdropWhile_prefix isSpace (s.toList.dropWhile isSpace)
    have hhead := List.head?_dropWhile_not isSpace s.toList
    rw [← hdropped, ← hback] at hhead
    cases htrim : trimList s.toList with
    | nil => rfl
    | cons c rest =>
      rw [htrim, List.cons_append, List.head?_cons] at hhead
      rw [List.dropWhile_cons_of_neg (by simp [hhead])]
  rw [trim, trim, String.toList_ofList, hback (trimList _), hfront, hback,
    List.rdropWhile_idempotent]

/-- A text that neither begins nor ends with white space is left as it is. -/
theorem trim_of_ends {first last : Char} (middle : List Char) (hfirst : isSpace first = false)
    (hlast : isSpace last = false) :
    trim (String.ofList (first :: middle ++ [last])) = String.ofList (first :: middle ++ [last]) := by
  simp [trim, trimList, hfirst, hlast]

/-- A text without commas is one item, unless it is blank. -/
theorem items_of_notMem {s : String} (hcomma : ',' ∉ s.toList) :
    items s = if isBlank s then [] else [trim s] := by
  rw [items, split, splitList_of_notMem hcomma, List.map_singleton, String.ofList_toList,
    List.map_singleton]
  by_cases hblank : isBlank s
  · simp [hblank, trim_of_isBlank hblank]
  · have htrim : trim s ≠ "" := fun h => hblank (trim_eq_empty_iff.mp h)
    simp [hblank, htrim]

/-! ## Two words -/

section TwoWords

variable {a b : String}

theorem wordsFrom_append {cs : List Char} (hcs : cs.any isSpace = false) (word rest : List Char) :
    wordsFrom word (cs ++ rest) = wordsFrom (cs.reverse ++ word) rest := by
  induction cs generalizing word with
  | nil => rfl
  | cons c cs ih =>
    rw [List.any_cons, Bool.or_eq_false_iff] at hcs
    rw [List.cons_append, wordsFrom, if_neg (by simp [hcs.1]), ih hcs.2, List.reverse_cons,
      List.append_assoc]
    rfl

/-- Two words with a blank between them are read as they are. -/
theorem words_pair (ha : a.toList.any isSpace = false) (hb : b.toList.any isSpace = false)
    (hane : a ≠ "") (hbne : b ≠ "") : words (a ++ " " ++ b) = [a, b] := by
  have hblank : isSpace ' ' = true := by decide
  have hfirst : a.toList.reverse.isEmpty = false := by simpa using hane
  have hlast : b.toList.reverse.isEmpty = false := by simpa using hbne
  have hlist : (a ++ " " ++ b).toList = a.toList ++ ' ' :: (b.toList ++ []) := by simp
  rw [words, hlist, wordsFrom_append ha, List.append_nil, wordsFrom, if_pos hblank, hfirst,
    if_neg Bool.false_ne_true, wordsFrom_append hb, List.append_nil, wordsFrom, hlast,
    if_neg Bool.false_ne_true]
  simp

theorem trim_pair (ha : a.toList.any isSpace = false) (hb : b.toList.any isSpace = false)
    (hane : a ≠ "") (hbne : b ≠ "") : trim (a ++ " " ++ b) = a ++ " " ++ b := by
  obtain ⟨first, front, hfront⟩ := List.exists_cons_of_ne_nil (mt String.toList_eq_nil_iff.mp hane)
  obtain ⟨back, last, hback⟩ :=
    (List.eq_nil_or_concat b.toList).resolve_left (mt String.toList_eq_nil_iff.mp hbne)
  have hends : a ++ " " ++ b = String.ofList (first :: (front ++ ' ' :: back) ++ [last]) := by
    apply String.toList_inj.mp
    simp [hfront, hback]
  rw [hends]
  refine trim_of_ends _ ?_ ?_
  · exact Bool.eq_false_iff.mpr (List.any_eq_false.mp ha first (by simp [hfront]))
  · exact Bool.eq_false_iff.mpr (List.any_eq_false.mp hb last (by simp [hback]))

end TwoWords

theorem dropStart?_append (start rest : List Char) :
    dropStart? start (start ++ rest) = some rest := by
  induction start with
  | nil => rfl
  | cons c start ih => rw [List.cons_append, dropStart?, if_pos rfl, ih]

end GeoFacet.Text
