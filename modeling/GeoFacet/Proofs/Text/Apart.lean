import GeoFacet.Proofs.Text.WholeNumber
import Mathlib.Data.List.Nodup

/-!
# Texts that stay apart

Two words of which neither begins with the other stay different whatever follows them; so do two
words of which neither ends with the other, whatever stands in front. Names that are put together
from such words never meet.
-/

namespace GeoFacet.Text

/-- Neither word begins with the other. -/
def Apart (v w : String) : Prop := ¬v.toList <+: w.toList ∧ ¬w.toList <+: v.toList

/-- Neither word ends with the other. -/
def ApartBehind (v w : String) : Prop := ¬v.toList <:+ w.toList ∧ ¬w.toList <:+ v.toList

instance (v w : String) : Decidable (Apart v w) := inferInstanceAs (Decidable (_ ∧ _))

instance (v w : String) : Decidable (ApartBehind v w) := inferInstanceAs (Decidable (_ ∧ _))

variable {v w a b : String}

theorem Apart.append_ne (h : Apart v w) : v ++ a ≠ w ++ b := by
  intro heq
  have hlist := congrArg String.toList heq
  rw [String.toList_append, String.toList_append] at hlist
  have hw : w.toList <+: v.toList ++ a.toList := ⟨b.toList, hlist.symm⟩
  rcases List.prefix_or_prefix_of_prefix (List.prefix_append _ _) hw with hv | hw
  · exact h.1 hv
  · exact h.2 hw

theorem Apart.append_ne_right (h : Apart v w) : v ++ a ≠ w := by
  have hne := h.append_ne (a := a) (b := "")
  rwa [String.append_empty] at hne

/-- Words that are apart stay apart whatever follows them. -/
theorem Apart.append (h : Apart v w) : Apart (v ++ a) (w ++ b) := by
  have hne {x y c d : String} (h : Apart x y) : ¬(x ++ c).toList <+: (y ++ d).toList := by
    rintro ⟨rest, hrest⟩
    refine h.append_ne (a := c ++ String.ofList rest) (b := d) (String.toList_inj.mp ?_)
    rw [← hrest, ← String.append_assoc, String.toList_append, String.toList_ofList]
  exact ⟨hne h, hne ⟨h.2, h.1⟩⟩

theorem ApartBehind.append_ne (h : ApartBehind v w) : a ++ v ≠ b ++ w := by
  intro heq
  have hlist := congrArg String.toList heq
  rw [String.toList_append, String.toList_append] at hlist
  have hw : w.toList <:+ a.toList ++ v.toList := ⟨b.toList, hlist.symm⟩
  rcases List.suffix_or_suffix_of_suffix (List.suffix_append _ _) hw with hv | hw
  · exact h.1 hv
  · exact h.2 hw

/-- Of words that are apart, the one that ends a text is known. -/
theorem eq_of_append_eq {words : List String}
    (hwords : ∀ v ∈ words, ∀ w ∈ words, v = w ∨ ApartBehind v w) (hv : v ∈ words) (hw : w ∈ words)
    (h : a ++ v = b ++ w) : a = b ∧ v = w := by
  rcases hwords v hv w hw with rfl | hapart
  · rw [← String.toList_inj, String.toList_append, String.toList_append] at h
    exact ⟨String.toList_inj.mp (List.append_cancel_right h), rfl⟩
  · exact absurd h hapart.append_ne

/-- The text begins with one of the words. -/
def BeginsWith (words : List String) (s : String) : Prop := ∃ w ∈ words, ∃ rest, s = w ++ rest

theorem beginsWith_self {words : List String} {s : String} (h : s ∈ words) : BeginsWith words s :=
  ⟨s, h, "", String.append_empty.symm⟩

theorem BeginsWith.append {words : List String} {s : String} (h : BeginsWith words s)
    (t : String) : BeginsWith words (s ++ t) := by
  obtain ⟨w, hw, rest, rfl⟩ := h
  exact ⟨w, hw, rest ++ t, String.append_assoc⟩

/-- A numbered name tells its number. -/
theorem numbered_injective (word : String) {i j : Nat}
    (h : word ++ toString i = word ++ toString j) : i = j := by
  have hdigits := (String.append_right_inj word).mp h
  rw [Nat.toString_eq_ofList_toDigits, Nat.toString_eq_ofList_toDigits] at hdigits
  have hvalue := congrArg (Nat.ofDigitChars 10 · 0) (String.ofList_injective hdigits)
  simpa using hvalue

/-- Numbers are apart once something ends them: `1_` does not begin `10_`. -/
theorem apart_numbered (word : String) {i j : Nat} (h : i ≠ j) :
    Apart (word ++ toString i ++ "_") (word ++ toString j ++ "_") := by
  have htake (n : Nat) (cs : List Char) :
      ((toString n).toList ++ '_' :: cs).takeWhile Char.isDigit = (toString n).toList := by
    rw [List.takeWhile_append_of_pos fun c => isDigit_of_mem_toString_nat,
      List.takeWhile_cons_of_neg (by decide), List.append_nil]
  have hne {i j : Nat} (h : i ≠ j) :
      ¬(word ++ toString i ++ "_").toList <+: (word ++ toString j ++ "_").toList := by
    simp only [String.toList_append, List.append_assoc, List.prefix_append_right_inj]
    rintro ⟨rest, hrest⟩
    have hdigits := congrArg (List.takeWhile Char.isDigit) hrest
    rw [List.append_assoc] at hdigits
    have hdigits : (toString i).toList = (toString j).toList :=
      (htake i rest).symm.trans (hdigits.trans (htake j []))
    exact h (numbered_injective word (congrArg (word ++ ·) (String.toList_inj.mp hdigits)))
  exact ⟨hne h, hne h.symm⟩

/-- Distinct texts that begin with some words. -/
structure Block (words names : List String) : Prop where
  distinct : names.Nodup
  begins : ∀ s ∈ names, BeginsWith words s

theorem Block.self {words : List String} (h : words.Nodup) : Block words words :=
  ⟨h, fun _ hs => beginsWith_self hs⟩

/-- At most one name. -/
theorem Block.ofOption {words : List String} {name : Option String}
    (h : ∀ s ∈ name, BeginsWith words s) : Block words name.toList where
  distinct := by cases name <;> simp
  begins := fun s hs => h s (Option.mem_toList.mp hs)

/-- Numbered names. -/
theorem Block.numbered (word : String) (n : Nat) :
    Block [word] ((List.range n).map fun i => word ++ toString i) where
  distinct := List.nodup_range.map fun _ _ => numbered_injective word
  begins := by
    intro s hs
    obtain ⟨i, -, rfl⟩ := List.mem_map.mp hs
    exact ⟨word, List.mem_singleton.mpr rfl, toString i, rfl⟩

/-- Blocks are distinct as a whole if the words of one are apart from those of any other. -/
theorem nodup_blocks {blocks : List (List String × List String)}
    (hapart : (blocks.map Prod.fst).Pairwise fun vs ws => ∀ v ∈ vs, ∀ w ∈ ws, Apart v w)
    (hblocks : ∀ b ∈ blocks, Block b.1 b.2) : (blocks.flatMap Prod.snd).Nodup := by
  rw [List.nodup_flatMap]
  have hapart := List.pairwise_map.mp hapart
  refine ⟨fun b hb => (hblocks b hb).distinct, hapart.imp_of_mem fun {a b} ha hb h => ?_⟩
  intro s hs hs'
  obtain ⟨v, hv, rest, heq⟩ := (hblocks a ha).begins s hs
  obtain ⟨w, hw, rest', heq'⟩ := (hblocks b hb).begins s hs'
  exact (h v hv w hw).append_ne (heq.symm.trans heq')

end GeoFacet.Text
