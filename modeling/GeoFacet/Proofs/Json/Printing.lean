import GeoFacet.Json.Printer
import GeoFacet.Json.Selection
import GeoFacet.Proofs.Json.Reading
import GeoFacet.Proofs.Text.WholeNumber
import Mathlib.Tactic.IntervalCases

/-!
# Reading what was printed

**Theorem (`read?_print`).** A value without doubles whose whole numbers fit 64 bits and which is
nested at most 127 deep is read back from its text. A reader that looks for some members only reads
an object back if it knows all its keys (`readFor?_print`).

The proof is an induction over the value, for any text that may stand behind it: a number ends
before a comma or a closing bracket, and the steps of the reader are as many as the text is long.
Items and members are read back one by one if the values in them are.
-/

namespace GeoFacet.Json

/-! ## Numbers -/

/-- The first digit of a whole number from one up is not zero. -/
theorem head?_toDigits_ne {n : Nat} (h : n ≠ 0) : (Nat.toDigits 10 n).head? ≠ some '0' := by
  induction n using Nat.strongRecOn with
  | ind n ih =>
    by_cases hn : n < 10
    · rw [Nat.toDigits_of_lt_base hn]
      interval_cases n <;> simp_all
    · have hfront := ih (n / 10) (by omega) (by omega)
      rw [Nat.toDigits_of_base_le (by decide) (Nat.not_lt.mp hn)]
      cases hdigits : Nat.toDigits 10 (n / 10) with
      | nil => exact absurd hdigits Nat.toDigits_ne_nil
      | cons c cs =>
        rw [hdigits] at hfront
        exact hfront

/-- What may stand behind a value in a document. -/
def Ends (rest : List Char) : Prop := ∀ c ∈ rest.head?, c = ',' ∨ c = ']' ∨ c = '\x7d'

section Digits

variable (n : Nat) {rest : List Char} (hrest : Ends rest)

include hrest

theorem takeWhile_toDigits :
    (Nat.toDigits 10 n ++ rest).takeWhile Char.isDigit = Nat.toDigits 10 n := by
  rw [List.takeWhile_append_of_pos fun c => Nat.isDigit_of_mem_toDigits (by decide) (by decide)]
  cases rest with
  | nil => simp
  | cons c rest => rcases hrest c rfl with rfl | rfl | rfl <;> simp

theorem dropWhile_toDigits : (Nat.toDigits 10 n ++ rest).dropWhile Char.isDigit = rest := by
  rw [List.dropWhile_append_of_pos fun c => Nat.isDigit_of_mem_toDigits (by decide) (by decide)]
  cases rest with
  | nil => simp
  | cons c rest => rcases hrest c rfl with rfl | rfl | rfl <;> simp

end Digits

/-- The digits of a whole number are not empty and begin with no idle zero. -/
theorem whole_toDigits (n : Nat) : ((Nat.toDigits 10 n).isEmpty ||
    (Nat.toDigits 10 n).head? = some '0' && (Nat.toDigits 10 n).length ≠ 1) = false := by
  by_cases hn : n = 0
  · rw [hn]
    decide
  · simp [head?_toDigits_ne hn, Nat.toDigits_ne_nil]

theorem readNumberText?_toString (n : Int) {rest : List Char} (hrest : Ends rest) :
    readNumberText? ((toString n).toList ++ rest) =
      some (⟨decide (n < 0), Nat.toDigits 10 n.natAbs, none, none⟩, rest) := by
  rw [toList_toString_int]
  by_cases hneg : n < 0
  · rw [if_pos hneg, List.cons_append]
    simp only [readNumberText?, takeWhile_toDigits _ hrest, dropWhile_toDigits _ hrest,
      whole_toDigits, Bool.false_eq_true, if_false]
    cases rest with
    | nil => simp [hneg]
    | cons c rest => rcases hrest c rfl with rfl | rfl | rfl <;> simp [hneg]
  · -- The text begins with a digit, so no sign is taken off.
    have hunsigned : ∀ cs, Nat.toDigits 10 n.natAbs ++ rest = '-' :: cs → False := by
      intro cs hcs
      have hdigits := takeWhile_toDigits n.natAbs hrest
      rw [hcs, List.takeWhile_cons_of_neg (by decide)] at hdigits
      exact Nat.toDigits_ne_nil hdigits.symm
    rw [if_neg hneg]
    simp only [readNumberText?, takeWhile_toDigits _ hrest, dropWhile_toDigits _ hrest,
      whole_toDigits, Bool.false_eq_true, if_false]
    cases rest with
    | nil => simp [hneg]
    | cons c rest => rcases hrest c rfl with rfl | rfl | rfl <;> simp [hneg]

theorem value?_whole {n : Int} (hn : IsWord n) :
    NumberText.value? ⟨decide (n < 0), Nat.toDigits 10 n.natAbs, none, none⟩ = some (.int n) := by
  have hvalue : (Nat.toDigits 10 n.natAbs).foldl (fun n c => 10 * n + (c.toNat - '0'.toNat)) 0 =
      n.natAbs := Nat.ofDigitChars_toDigits (by decide) (by decide)
  have hfits : if decide (n < 0) = true then n.natAbs ≠ 0 ∧ n.natAbs ≤ UInt64.size / 2
      else n.natAbs < UInt64.size := by
    simp only [UInt64.size, decide_eq_true_eq, IsWord] at hn ⊢
    split <;> omega
  have hsigned : (if decide (n < 0) = true then -(n.natAbs : Int) else n.natAbs) = n := by
    simp only [decide_eq_true_eq]
    omega
  simp only [NumberText.value?, hvalue]
  rw [if_pos ⟨rfl, rfl, hfits⟩, hsigned]

theorem readNumber?_toString {n : Int} (hn : IsWord n) {rest : List Char}
    (hrest : Ends rest) :
    readNumber? ((toString n).toList ++ rest) = some (.int n, rest) := by
  rw [readNumber?, readNumberText?_toString n hrest]
  show (NumberText.value? _).bind _ = _
  rw [value?_whole hn]
  rfl

/-! ## Texts -/

theorem hexDigit?_digitChar : ∀ n < 16, hexDigit? (Nat.digitChar n) = some n := by decide

theorem readUnicode?_control {c : Char} (h : c.toNat < 32) (rest : List Char) :
    readUnicode? ('0' :: '0' :: (controlDigits c ++ rest)) = some (c, rest) := by
  have hhigh := hexDigit?_digitChar (c.toNat / 16) (by omega)
  have hlow := hexDigit?_digitChar (c.toNat % 16) (by omega)
  have hzero : hexDigit? '0' = some 0 := by decide
  have hvalue : ((0 * 16 + 0) * 16 + c.toNat / 16) * 16 + c.toNat % 16 = c.toNat := by omega
  have hhex : readHex? ('0' :: '0' :: (controlDigits c ++ rest)) = some (c.toNat, rest) := by
    simp only [controlDigits, List.cons_append, List.nil_append, readHex?, hzero, hhigh, hlow,
      Option.bind_eq_bind, Option.bind_some, hvalue]
  have hplain : ¬(0xD800 ≤ c.toNat ∧ c.toNat < 0xDC00) := by omega
  have hfirst : ¬(0xDC00 ≤ c.toNat ∧ c.toNat < 0xE000) := by omega
  rw [readUnicode?, hhex]
  simp only [Option.bind_eq_bind, Option.bind_some, if_neg hplain, if_neg hfirst, Char.ofNat_toNat]

/-- A character comes back from its escaped form. -/
theorem readText?_escaped (c : Char) (fuel : Nat) (acc rest : List Char) :
    readText? (fuel + 1) acc (escaped c ++ rest) = readText? fuel (c :: acc) rest := by
  unfold escaped
  split
  case h_8 hquote hslash _ _ _ _ _ =>
    by_cases hcontrol : c.toNat < 32
    · rw [if_pos hcontrol]
      show (readUnicode? ('0' :: '0' :: (controlDigits c ++ rest)) >>= fun p =>
        readText? fuel (p.1 :: acc) p.2) = _
      rw [readUnicode?_control hcontrol]
      rfl
    · rw [if_neg hcontrol, List.cons_append, List.nil_append]
      rw [readText?, if_neg hcontrol]
      · exact hquote
      · exact fun _ h _ => hslash h
      · exact fun _ _ h _ => hslash h
  all_goals rfl

theorem readText?_flatMap (cs : List Char) {fuel : Nat} (hfuel : cs.length < fuel)
    (acc rest : List Char) :
    readText? fuel acc (cs.flatMap escaped ++ '"' :: rest) =
      some (String.ofList (acc.reverse ++ cs), rest) := by
  induction cs generalizing fuel acc with
  | nil =>
    obtain ⟨fuel, rfl⟩ := Nat.exists_eq_succ_of_ne_zero (Nat.ne_zero_of_lt hfuel)
    simp [readText?]
  | cons c cs ih =>
    obtain ⟨fuel, rfl⟩ := Nat.exists_eq_succ_of_ne_zero (Nat.ne_zero_of_lt hfuel)
    rw [List.flatMap_cons, List.append_assoc, readText?_escaped,
      ih (Nat.lt_of_succ_lt_succ hfuel), List.reverse_cons, List.append_assoc]
    rfl

theorem length_le_flatMap_escaped (cs : List Char) : cs.length ≤ (cs.flatMap escaped).length := by
  have hlength (c : Char) : 1 ≤ (escaped c).length := by
    unfold escaped
    split
    case h_8 => split <;> simp
    all_goals decide
  induction cs with
  | nil => exact Nat.le_refl 0
  | cons c cs ih =>
    have := hlength c
    simp only [List.flatMap_cons, List.length_append, List.length_cons]
    omega

theorem toList_quotedText (s : String) :
    (quotedText s).toList = '"' :: (s.toList.flatMap escaped ++ ['"']) := by
  rw [quotedText, String.toList_ofList, List.cons_append]

/-- A quoted text is read back behind its opening quote. -/
theorem readText?_quotedText (s : String) (rest : List Char) :
    readText? ((s.toList.flatMap escaped ++ '"' :: rest).length + 1) []
      (s.toList.flatMap escaped ++ '"' :: rest) = some (s, rest) := by
  have hlength := length_le_flatMap_escaped s.toList
  have hfuel : s.toList.length < (s.toList.flatMap escaped ++ '"' :: rest).length + 1 := by
    rw [List.length_append]
    omega
  rw [readText?_flatMap _ hfuel, List.reverse_nil, List.nil_append, String.ofList_toList]

/-! ## Values -/

/-- A value without doubles whose whole numbers fit 64 bits, nested at most as deep as `depth`. -/
inductive Readable : Nat → Json → Prop
  | null {depth : Nat} : Readable depth .null
  | bool {depth : Nat} (b : Bool) : Readable depth (.bool b)
  | int {depth : Nat} {n : Int} : IsWord n → Readable depth (.int n)
  | text {depth : Nat} (s : String) : Readable depth (.text s)
  | list {depth : Nat} {items : List Json} :
    (∀ v ∈ items, Readable depth v) → Readable (depth + 1) (.list items)
  | object {depth : Nat} {members : List (String × Json)} :
    (∀ m ∈ members, Readable depth m.2) → Readable (depth + 1) (.object members)

/-- The reader finds the value at the front of any document that begins with its text. -/
def ReadsBack (depth : Nat) (v : Json) : Prop :=
  ∀ fuel rest, v.print.toList.length ≤ fuel → Ends rest →
    readValue? fuel depth (v.print.toList ++ rest) = some (v, rest)

theorem skipBlanks_cons {c : Char} (h : isBlank c = false) (cs : List Char) :
    skipBlanks (c :: cs) = c :: cs :=
  List.dropWhile_cons_of_neg (by simp [h])

/-- A number begins with a sign or a digit. -/
theorem toString_cons (n : Int) :
    ∃ c cs, (toString n).toList = c :: cs ∧ (c.isDigit = true ∨ c = '-') := by
  cases hcs : (toString n).toList with
  | nil =>
    rw [toList_toString_int] at hcs
    by_cases hneg : n < 0
    · rw [if_pos hneg] at hcs
      cases hcs
    · rw [if_neg hneg] at hcs
      exact absurd hcs Nat.toDigits_ne_nil
  | cons c cs => exact ⟨c, cs, rfl, isDigit_of_mem_toString_int (hcs ▸ List.mem_cons_self)⟩

theorem ne_of_number {c d : Char} (hc : c.isDigit = true ∨ c = '-') (hdigit : d.isDigit = false)
    (hsign : d ≠ '-') : c ≠ d := by
  rintro rfl
  rcases hc with hc | hc
  · exact absurd (hc.symm.trans hdigit) (by decide)
  · exact hsign hc

theorem not_isBlank_of_number {c : Char} (hc : c.isDigit = true ∨ c = '-') : isBlank c = false := by
  simp [isBlank, ne_of_number hc (d := ' ') (by decide) (by decide),
    ne_of_number hc (d := '\n') (by decide) (by decide),
    ne_of_number hc (d := '\t') (by decide) (by decide),
    ne_of_number hc (d := '\r') (by decide) (by decide)]

/-- What begins like a number is read as one. -/
theorem readValue?_number {c : Char} (hc : c.isDigit = true ∨ c = '-') (fuel depth : Nat)
    (cs : List Char) : readValue? (fuel + 1) depth (c :: cs) = readNumber? (c :: cs) := by
  rw [readValue?, skipBlanks_cons (not_isBlank_of_number hc)]
  split
  case h_7 => rfl
  all_goals
    rename_i heq
    exact absurd (List.cons.inj heq).1 (ne_of_number hc (by decide) (by decide))

theorem toList_print_list (items : List Json) (rest : List Char) :
    (print (.list items)).toList ++ rest =
      '[' :: ((printItems true items).toList ++ ']' :: rest) := by
  rw [print, String.toList_append, String.toList_append]
  simp

theorem toList_print_object (members : List (String × Json)) (rest : List Char) :
    (print (.object members)).toList ++ rest =
      '\x7b' :: ((printMembers true members).toList ++ '\x7d' :: rest) := by
  rw [print, String.toList_append, String.toList_append]
  simp

theorem toList_printItems_cons (v : Json) (items : List Json) :
    (printItems true (v :: items)).toList = v.print.toList ++ (printItems false items).toList := by
  rw [printItems]
  simp

theorem toList_printItems_false (v : Json) (items : List Json) :
    (printItems false (v :: items)).toList = ',' :: (printItems true (v :: items)).toList := by
  rw [printItems, printItems]
  simp

/-- No value begins with a blank or a closing bracket. -/
theorem Readable.print_cons {depth : Nat} {v : Json} (h : Readable depth v) :
    ∃ c cs, v.print.toList = c :: cs ∧ isBlank c = false ∧ c ≠ ']' := by
  cases h with
  | null => exact ⟨'n', _, rfl, by decide, by decide⟩
  | bool b => cases b <;> exact ⟨_, _, rfl, by decide, by decide⟩
  | @int _ n hn =>
    obtain ⟨c, cs, hcs, hc⟩ := toString_cons n
    exact ⟨c, cs, hcs, not_isBlank_of_number hc, ne_of_number hc (by decide) (by decide)⟩
  | text s => exact ⟨'"', _, toList_quotedText s, by decide, by decide⟩
  | @list _ items => exact ⟨'[', _, by simpa using toList_print_list items [], by decide, by decide⟩
  | @object _ members =>
    exact ⟨'\x7b', _, by simpa using toList_print_object members [], by decide, by decide⟩

theorem readsBack_text (depth : Nat) (s : String) : ReadsBack depth (.text s) := by
  intro fuel rest hfuel _
  rw [print, toList_quotedText] at *
  cases fuel with
  | zero => exact absurd hfuel (by simp)
  | succ fuel =>
    rw [List.cons_append, List.append_assoc, List.singleton_append]
    show (readText? _ [] _).map _ = _
    rw [readText?_quotedText]
    rfl

theorem readsBack_int (depth : Nat) {n : Int} (hn : IsWord n) :
    ReadsBack depth (.int n) := by
  intro fuel rest hfuel hrest
  obtain ⟨c, cs, hcs, hc⟩ := toString_cons n
  have hread := readNumber?_toString hn hrest
  rw [print, hcs] at hfuel ⊢
  rw [hcs] at hread
  cases fuel with
  | zero => exact absurd hfuel (by simp)
  | succ fuel => exact (readValue?_number hc fuel depth _).trans hread

/-- Items are read back if each of them is. -/
theorem readItems?_print {depth : Nat} {items : List Json} (hne : items ≠ [])
    (hitems : ∀ v ∈ items, ReadsBack depth v) (acc : List Json) (fuel : Nat) (rest : List Char)
    (hfuel : (printItems true items).toList.length < fuel) :
    readItems? fuel depth acc ((printItems true items).toList ++ ']' :: rest) =
      some (acc.reverse ++ items, rest) := by
  induction items generalizing acc fuel with
  | nil => exact absurd rfl hne
  | cons v items ih =>
    obtain ⟨fuel, rfl⟩ := Nat.exists_eq_succ_of_ne_zero (Nat.ne_zero_of_lt hfuel)
    have hv := hitems v List.mem_cons_self
    rw [toList_printItems_cons] at hfuel ⊢
    rw [List.length_append] at hfuel
    rw [List.append_assoc, readItems?]
    cases items with
    | nil =>
      rw [hv fuel _ (by omega) (by simp [Ends, printItems])]
      simp [printItems, skipBlanks, isBlank]
    | cons w items =>
      rw [toList_printItems_false] at hfuel ⊢
      rw [List.length_cons] at hfuel
      rw [hv fuel _ (by omega) (by simp [Ends])]
      -- A step takes an item and a comma off, so the fuel covers what is left.
      have hrest := ih (List.cons_ne_nil w items)
        (fun u hu => hitems u (List.mem_cons_of_mem v hu)) (v :: acc) fuel (by omega)
      refine hrest.trans ?_
      rw [List.reverse_cons, List.append_assoc]
      rfl

theorem toList_printMembers_cons (k : String) (v : Json) (members : List (String × Json)) :
    (printMembers true ((k, v) :: members)).toList =
      '"' :: (k.toList.flatMap escaped ++ '"' :: ':' :: (v.print.toList ++
        (printMembers false members).toList)) := by
  rw [printMembers]
  simp [toList_quotedText]

theorem toList_printMembers_false (k : String) (v : Json) (members : List (String × Json)) :
    (printMembers false ((k, v) :: members)).toList =
      ',' :: (printMembers true ((k, v) :: members)).toList := by
  rw [printMembers, printMembers]
  simp

/-- Members are read back if the value of each is. -/
theorem readMembers?_print {depth : Nat} {members : List (String × Json)} (hne : members ≠ [])
    (hmembers : ∀ m ∈ members, ReadsBack depth m.2) (acc : List (String × Json)) (fuel : Nat)
    (rest : List Char) (hfuel : (printMembers true members).toList.length < fuel) :
    readMembers? fuel depth acc ((printMembers true members).toList ++ '\x7d' :: rest) =
      some (acc.reverse ++ members, rest) := by
  induction members generalizing acc fuel with
  | nil => exact absurd rfl hne
  | cons m members ih =>
    obtain ⟨k, v⟩ := m
    obtain ⟨fuel, rfl⟩ := Nat.exists_eq_succ_of_ne_zero (Nat.ne_zero_of_lt hfuel)
    have hv : ReadsBack depth v := hmembers (k, v) List.mem_cons_self
    rw [toList_printMembers_cons] at hfuel ⊢
    simp only [List.length_append, List.length_cons] at hfuel
    simp only [List.cons_append, List.append_assoc]
    rw [readMembers?, skipBlanks_cons (by decide)]
    simp only [readText?_quotedText, skipBlanks_cons (c := ':') (by decide)]
    cases members with
    | nil =>
      rw [hv fuel _ (by omega) (by simp [Ends, printMembers])]
      simp [printMembers, skipBlanks, isBlank]
    | cons w members =>
      obtain ⟨l, w⟩ := w
      rw [toList_printMembers_false] at hfuel ⊢
      rw [List.length_cons] at hfuel
      rw [hv fuel _ (by omega) (by simp [Ends])]
      have hrest := ih (List.cons_ne_nil _ members)
        (fun u hu => hmembers u (List.mem_cons_of_mem _ hu)) ((k, v) :: acc) fuel (by omega)
      refine hrest.trans ?_
      rw [List.reverse_cons, List.append_assoc]
      rfl

theorem readsBack_list {depth : Nat} {items : List Json}
    (hreadable : ∀ v ∈ items, Readable depth v) (hitems : ∀ v ∈ items, ReadsBack depth v) :
    ReadsBack (depth + 1) (.list items) := by
  intro fuel rest hfuel _
  have hlength := congrArg List.length (toList_print_list items [])
  simp only [List.append_nil, List.length_cons, List.length_append] at hlength
  obtain ⟨fuel, rfl⟩ := Nat.exists_eq_succ_of_ne_zero (n := fuel) (by omega)
  rw [toList_print_list, readValue?, skipBlanks_cons (by decide)]
  cases items with
  | nil => rfl
  | cons v items =>
    obtain ⟨c, cs, hcs, hblank, hclose⟩ := (hreadable v List.mem_cons_self).print_cons
    have hread := readItems?_print (List.cons_ne_nil v items) hitems [] fuel rest
      (by omega)
    rw [toList_printItems_cons, hcs, List.cons_append, List.cons_append] at hread ⊢
    simp only [skipBlanks_cons hblank]
    -- No item begins with the closing bracket, so the list is not read as the empty one.
    split
    · rename_i heq
      exact absurd (List.cons.inj heq).1 hclose
    · rw [hread]
      rfl

theorem readsBack_object {depth : Nat} {members : List (String × Json)}
    (hmembers : ∀ m ∈ members, ReadsBack depth m.2) : ReadsBack (depth + 1) (.object members) := by
  intro fuel rest hfuel _
  have hlength := congrArg List.length (toList_print_object members [])
  simp only [List.append_nil, List.length_cons, List.length_append] at hlength
  obtain ⟨fuel, rfl⟩ := Nat.exists_eq_succ_of_ne_zero (n := fuel) (by omega)
  rw [toList_print_object, readValue?, skipBlanks_cons (by decide)]
  cases members with
  | nil => rfl
  | cons m members =>
    obtain ⟨k, v⟩ := m
    have hread := readMembers?_print (List.cons_ne_nil (k, v) members) hmembers [] fuel
      rest (by omega)
    rw [toList_printMembers_cons, List.cons_append] at hread ⊢
    simp only [skipBlanks_cons (c := '"') (by decide)]
    show (readMembers? fuel depth [] _).map _ = _
    rw [hread]
    rfl

theorem Readable.readsBack {depth : Nat} {v : Json} (h : Readable depth v) : ReadsBack depth v := by
  induction h with
  | null =>
    intro fuel rest hfuel _
    cases fuel with
    | zero => exact absurd hfuel (by decide)
    | succ fuel => rfl
  | bool b =>
    intro fuel rest hfuel _
    cases fuel with
    | zero => cases b <;> exact absurd hfuel (by decide)
    | succ fuel => cases b <;> rfl
  | int hn => exact readsBack_int _ hn
  | text s => exact readsBack_text _ s
  | list hitems ih => exact readsBack_list hitems ih
  | object _ ih => exact readsBack_object ih

/-- **A readable value is read back from its text.** -/
theorem read?_print {v : Json} (h : Readable maxDepth v) : read? v.print = some v := by
  have hread := h.readsBack (2 * v.print.toList.length + 2) [] (by omega) (by simp [Ends])
  rw [List.append_nil] at hread
  simp only [read?, hread]
  rfl

/-! ## Chosen members -/

theorem readChosen?_print {names : List String} {key : String} (hkey : names.contains key = true)
    {v : Json} (hv : ReadsBack (maxDepth - 1) v) {rest : List Char} (hrest : Ends rest) :
    readChosen? names key (v.print.toList ++ rest) = some (some v, rest) := by
  have hread := hv (2 * (v.print.toList ++ rest).length + 2) rest
    (by rw [List.length_append]; omega) hrest
  simp only [readChosen?, hkey, if_true, hread, Option.map_some]

/-- Members are read back if all are chosen and the value of each is read back. -/
theorem readChosenMembers?_print {names : List String} {members : List (String × Json)}
    (hne : members ≠ []) (hnames : ∀ m ∈ members, names.contains m.1 = true)
    (hmembers : ∀ m ∈ members, ReadsBack (maxDepth - 1) m.2) (acc : List (String × Json))
    (fuel : Nat) (rest : List Char) (hfuel : (printMembers true members).toList.length < fuel) :
    readChosenMembers? names fuel acc ((printMembers true members).toList ++ '\x7d' :: rest) =
      some (acc.reverse ++ members, rest) := by
  induction members generalizing acc fuel with
  | nil => exact absurd rfl hne
  | cons m members ih =>
    obtain ⟨k, v⟩ := m
    obtain ⟨fuel, rfl⟩ := Nat.exists_eq_succ_of_ne_zero (Nat.ne_zero_of_lt hfuel)
    have hk : names.contains k = true := hnames (k, v) List.mem_cons_self
    have hv : ReadsBack (maxDepth - 1) v := hmembers (k, v) List.mem_cons_self
    rw [toList_printMembers_cons] at hfuel ⊢
    simp only [List.length_append, List.length_cons] at hfuel
    simp only [List.cons_append, List.append_assoc]
    rw [readChosenMembers?, skipBlanks_cons (by decide)]
    simp only [readText?_quotedText, Option.bind_eq_bind, Option.bind_some,
      skipBlanks_cons (c := ':') (by decide)]
    cases members with
    | nil =>
      rw [readChosen?_print hk hv (by simp [Ends, printMembers])]
      simp [printMembers, skipBlanks, isBlank]
    | cons w members =>
      obtain ⟨l, w⟩ := w
      rw [toList_printMembers_false] at hfuel ⊢
      rw [List.length_cons] at hfuel
      rw [readChosen?_print hk hv (by simp [Ends])]
      have hrest := ih (List.cons_ne_nil _ members)
        (fun u hu => hnames u (List.mem_cons_of_mem _ hu))
        (fun u hu => hmembers u (List.mem_cons_of_mem _ hu)) ((k, v) :: acc) fuel (by omega)
      refine hrest.trans ?_
      rw [List.reverse_cons, List.append_assoc]
      rfl

/-- **A readable object is read back by a reader that knows all its keys.** -/
theorem readFor?_print {names : List String} {members : List (String × Json)}
    (hnames : ∀ m ∈ members, names.contains m.1 = true)
    (h : Readable maxDepth (.object members)) :
    readFor? names (print (.object members)) = some (.object members) := by
  have htext := toList_print_object members []
  rw [List.append_nil] at htext
  rw [readFor?, htext]
  simp only [skipBlanks_cons (c := '\x7b') (by decide)]
  cases members with
  | nil => rfl
  | cons m members =>
    obtain ⟨k, v⟩ := m
    have hmembers : ∀ m ∈ (k, v) :: members, ReadsBack (maxDepth - 1) m.2 := by
      cases h with
      | object hmembers => exact fun m hm => (hmembers m hm).readsBack
    -- The fuel is the length of the whole text, which is more than the members take.
    have hread := readChosenMembers?_print (List.cons_ne_nil (k, v) members) hnames hmembers []
      (((printMembers true ((k, v) :: members)).toList ++ ['\x7d']).length + 1) []
      (by rw [List.length_append]; omega)
    rw [toList_printMembers_cons, List.cons_append] at hread ⊢
    simp only [skipBlanks_cons (c := '"') (by decide)]
    show ((readChosenMembers? names _ [] _).map _ >>= _) = _
    rw [hread]
    rfl

/-! ## Values that were encoded -/

namespace Readable

variable {α : Type} {depth : Nat} {encode : α → Json}

theorem ofMembers {ms : List (String × Json)} (h : ∀ m ∈ ms, Readable depth m.2) :
    Readable (depth + 1) (.ofMembers ms) :=
  .object fun m hm => h m (mem_of_mem_members hm)

theorem ofNat {n : Nat} (h : n < UInt64.size) : Readable depth (.ofNat n) := by
  apply Readable.int
  simp only [UInt64.size, IsWord] at h ⊢
  omega

theorem ofWord [Vocabulary α] (a : α) : Readable depth (.ofWord a) := .text _

theorem ofOption {o : Option α} (h : ∀ a ∈ o, Readable depth (encode a)) :
    Readable depth (.ofOption encode o) := by
  cases o with
  | none => exact .null
  | some a => exact h a rfl

theorem listMap {as : List α} (h : ∀ a ∈ as, Readable depth (encode a)) :
    Readable (depth + 1) (.list (as.map encode)) := by
  apply Readable.list
  intro v hv
  obtain ⟨a, ha, rfl⟩ := List.mem_map.mp hv
  exact h a ha

theorem ofMap {entries : List (String × α)} (h : ∀ e ∈ entries, Readable depth (encode e.2)) :
    Readable (depth + 1) (.ofMap encode entries) := by
  apply Readable.ofMembers
  intro m hm
  obtain ⟨e, he, rfl⟩ := List.mem_map.mp hm
  exact h e he

end Readable

end GeoFacet.Json
