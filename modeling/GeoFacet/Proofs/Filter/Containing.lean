import GeoFacet.Search.Query
import GeoFacet.Sql.Predicate
import Mathlib.Data.List.Infix

/-!
# Patterns of the texts that contain a text

Both backends look for a part of a text through a pattern with wildcards, each with its own signs. A
pattern is read part by part, and a run of any characters is tried at every length. Escaping takes
the meaning from the signs of the language, so the pattern between two runs is found exactly in the
texts that contain the text.

Main statement: `like_matches_containing`.
-/

namespace GeoFacet

/-- The signs of a pattern language: any run of characters, and any one character. A backslash makes
the next character stand for itself. -/
structure Wildcards where
  many : Char
  one : Char
  many_ne_one : many ≠ one
  many_ne_backslash : many ≠ '\\'
  one_ne_backslash : one ≠ '\\'

namespace Wildcards

/-- What a part of a pattern stands for. -/
inductive Part where
  /-- any run of characters -/
  | many
  /-- any one character -/
  | one
  | exactly (c : Char)

/-! ## Matching -/

/-- Whether parts make up a text. A run of characters may end at any place. -/
def accepts : List Part → List Char → Bool
  | [], cs => cs.isEmpty
  | .many :: ps, cs => cs.tails.any (accepts ps)
  | .one :: _, [] => false
  | .one :: ps, _ :: cs => accepts ps cs
  | .exactly _ :: _, [] => false
  | .exactly d :: ps, c :: cs => c = d && accepts ps cs

theorem accepts_many {ps : List Part} {cs : List Char} :
    accepts (.many :: ps) cs = true ↔ ∃ rest, rest <:+ cs ∧ accepts ps rest = true := by
  simp only [accepts, List.any_eq_true, List.mem_tails]

/-- Characters that stand for themselves are found at the beginning. -/
theorem accepts_exactly (ds : List Char) {ps : List Part} {cs : List Char} :
    accepts (ds.map .exactly ++ ps) cs = true ↔
      ∃ rest, cs = ds ++ rest ∧ accepts ps rest = true := by
  induction ds generalizing cs with
  | nil => simp
  | cons d ds ih =>
    cases cs with
    | nil => simp [accepts]
    | cons c cs =>
      simp only [List.map_cons, List.cons_append, accepts, Bool.and_eq_true, decide_eq_true_eq, ih,
        List.cons.injEq, and_assoc, exists_and_left]

/-- **Characters between two runs are found wherever they stand together.** -/
theorem accepts_between (ds cs : List Char) :
    accepts (.many :: (ds.map .exactly ++ [.many])) cs = true ↔ ds <:+: cs := by
  rw [accepts_many]
  constructor
  · rintro ⟨rest, ⟨front, rfl⟩, h⟩
    obtain ⟨back, rfl, -⟩ := (accepts_exactly ds).mp h
    exact ⟨front, back, List.append_assoc _ _ _⟩
  · rintro ⟨front, back, rfl⟩
    refine ⟨ds ++ back, ⟨front, (List.append_assoc _ _ _).symm⟩, (accepts_exactly ds).mpr ?_⟩
    exact ⟨back, rfl, accepts_many.mpr ⟨[], List.nil_suffix, rfl⟩⟩

/-! ## Reading patterns -/

variable (w : Wildcards)

/-- The part that a character stands for where no backslash is in front. -/
def part (c : Char) : Part :=
  if c = w.many then .many else if c = w.one then .one else .exactly c

/-- The parts of a written pattern. A backslash must have a character behind it. -/
def parts? : List Char → Option (List Part)
  | [] => some []
  | ['\\'] => none
  | '\\' :: c :: rest => (parts? rest).map (.exactly c :: ·)
  | c :: rest => (parts? rest).map (w.part c :: ·)

/-- Whether a pattern matches a text from the beginning to the end. -/
def Matches (pattern s : String) : Prop :=
  (w.parts? pattern.toList).any (accepts · s.toList) = true

instance (pattern s : String) : Decidable (w.Matches pattern s) :=
  inferInstanceAs (Decidable (_ = true))

theorem parts?_cons {c : Char} (hc : c ≠ '\\') (rest : List Char) :
    w.parts? (c :: rest) = (w.parts? rest).map (w.part c :: ·) := by
  rw [parts?] <;> simp [hc]

theorem part_many : w.part w.many = .many := if_pos rfl

/-! ## Escaping -/

/-- The text with a backslash in front of each character that is read specially. -/
def escape (cs : List Char) : List Char :=
  cs.flatMap fun c => if c = '\\' ∨ c = w.many ∨ c = w.one then ['\\', c] else [c]

/-- Each character of an escaped text is read as itself. -/
theorem parts?_escape (cs rest : List Char) :
    w.parts? (w.escape cs ++ rest) = (w.parts? rest).map (cs.map .exactly ++ ·) := by
  induction cs with
  | nil => simp [escape]
  | cons c cs ih =>
    have hpart : w.parts? (w.escape (c :: cs) ++ rest) =
        (w.parts? (w.escape cs ++ rest)).map (.exactly c :: ·) := by
      rw [escape, List.flatMap_cons, List.append_assoc]
      split
      · rw [List.cons_append, List.cons_append, List.nil_append, parts?, escape]
      · rename_i hc
        rw [not_or, not_or] at hc
        rw [List.cons_append, List.nil_append, parts?_cons w hc.1, part, if_neg hc.2.1,
          if_neg hc.2.2, escape]
    rw [hpart, ih, Option.map_map]
    rfl

/-- Writes a text in place of every occurrence of a character. -/
def replaced (old : Char) (new cs : List Char) : List Char :=
  cs.flatMap fun c => if c = old then new else [c]

/-- Escaping may go through the text once for each special character, the backslash first: later
rounds leave the backslashes alone that earlier ones wrote. -/
theorem escape_eq_replaced (cs : List Char) : w.escape cs =
    replaced w.one ['\\', w.one]
      (replaced w.many ['\\', w.many] (replaced '\\' ['\\', '\\'] cs)) := by
  obtain ⟨many, one, hne, hmany, hone⟩ := w
  simp only [escape, replaced, List.flatMap_assoc]
  refine List.flatMap_congr fun c _ => ?_
  by_cases hc : c = '\\'
  · simp [hc, hmany.symm, hone.symm]
  · by_cases hm : c = many
    · simp [hm, hne, hmany, hone.symm]
    · by_cases ho : c = one
      · simp [ho, hne.symm, hone]
      · simp [hc, hm, ho]

/-! ## Texts that contain a text -/

/-- The pattern of the texts that contain a text: the escaped text between two runs. -/
def containing (text : String) : String :=
  String.ofList (w.many :: (w.escape text.toList ++ [w.many]))

theorem toList_containing (text : String) : (w.containing text).toList =
    w.many :: (replaced w.one ['\\', w.one]
      (replaced w.many ['\\', w.many] (replaced '\\' ['\\', '\\'] text.toList)) ++ [w.many]) := by
  rw [containing, String.toList_ofList, escape_eq_replaced]

/-- **The pattern matches where the text is found.** -/
theorem matches_containing (text s : String) :
    w.Matches (w.containing text) s ↔ text.toList <:+: s.toList := by
  have hparts : w.parts? (w.containing text).toList =
      some (.many :: (text.toList.map .exactly ++ [.many])) := by
    rw [containing, String.toList_ofList, parts?_cons w w.many_ne_backslash, parts?_escape,
      parts?_cons w w.many_ne_backslash, part_many]
    rfl
  rw [Matches, hparts, Option.any_some, accepts_between]

/-- A sign in front and at the end of an escaped text. -/
theorem containing_eq {sign : String} (hsign : sign.toList = [w.many]) (text : String) :
    sign ++ String.ofList (w.escape text.toList) ++ sign = w.containing text := by
  apply String.toList_inj.mp
  simp [hsign, containing]

/-- The signs of a `LIKE` pattern. -/
def sql : Wildcards := ⟨'%', '_', by decide, by decide, by decide⟩

/-- The signs of a wildcard query. -/
def search : Wildcards := ⟨'*', '?', by decide, by decide, by decide⟩

theorem containing_sql (text : String) :
    Sql.Predicate.containing text = .text (sql.containing text) :=
  congrArg Scalar.text (containing_eq sql rfl text)

theorem containing_search (text : String) :
    Search.Query.containing text = search.containing text :=
  containing_eq search rfl text

end Wildcards

/-- **Both backends look for the texts that contain a text**, whatever characters it is made of. The
parameter of the relational condition and the value of the search clause are the text between two
runs of any characters, with the backslash escaped first and then the two signs of the language.
Each matches exactly the texts that the given text is a part of, so the backends agree. -/
theorem like_matches_containing (field text : String) : ∃ parameter pattern : String,
    Sql.Predicate.ofCondition (.like field text) =
        .ok (.like (.column field) (.text parameter)) ∧
      parameter.toList = '%' :: (Wildcards.replaced '_' ['\\', '_']
        (Wildcards.replaced '%' ['\\', '%']
          (Wildcards.replaced '\\' ['\\', '\\'] text.toList)) ++ ['%']) ∧
      Search.Query.ofCondition (.like field text) = .wildcard field pattern ∧
      pattern.toList = '*' :: (Wildcards.replaced '?' ['\\', '?']
        (Wildcards.replaced '*' ['\\', '*']
          (Wildcards.replaced '\\' ['\\', '\\'] text.toList)) ++ ['*']) ∧
      ∀ s : String, (Wildcards.sql.Matches parameter s ↔ text.toList <:+: s.toList) ∧
        (Wildcards.search.Matches pattern s ↔ text.toList <:+: s.toList) := by
  refine ⟨Wildcards.sql.containing text, Wildcards.search.containing text, ?_,
    Wildcards.sql.toList_containing text, ?_, Wildcards.search.toList_containing text, fun s => ?_⟩
  · rw [Sql.Predicate.ofCondition, Wildcards.containing_sql]
  · rw [Search.Query.ofCondition, Wildcards.containing_search]
  · exact ⟨Wildcards.sql.matches_containing text s, Wildcards.search.matches_containing text s⟩

/-- An escaped percent sign matches itself only. -/
example : Wildcards.sql.Matches "%50\\%%" "at 50% off" ∧
    ¬Wildcards.sql.Matches "%50\\%%" "at 500 meters" := by
  decide +kernel

end GeoFacet
