import CopyFormat.Proofs.Text.Character
import CopyFormat.Unicode.Word

/-!
Blanks are no word characters. A set has a character only if one of the tables that it is made of
lists it, and the tables of the word characters keep clear of the blanks.
-/

namespace CopyFormat.Unicode

/-- One of some intervals has a code point. -/
def Covers (l : List (Nat × Nat)) (n : Nat) : Prop := ∃ p ∈ l, p.1 ≤ n ∧ n ≤ p.2

theorem covers_append {l l' : List (Nat × Nat)} {n : Nat} :
    Covers (l ++ l') n ↔ Covers l n ∨ Covers l' n := by
  simp only [Covers, List.mem_append, or_and_right, exists_or]

namespace CharSet

theorem covers_of_search {a : Array (Nat × Nat)} {n lo hi : Nat} (h : search a n lo hi = true) :
    Covers a.toList n := by
  fun_induction search a n lo hi with
  | case1 => cases h
  | case2 lo hi _ mid l u _ _ ih => exact ih h
  | case3 lo hi _ mid l u _ _ _ ih => exact ih h
  | case4 lo hi _ mid l u hmid hl hu =>
      have hmem : (l, u) ∈ a := Array.mem_of_getElem? hmid
      exact ⟨(l, u), Array.mem_def.mp hmem, by omega, by omega⟩
  | case5 => cases h

/-- Two intervals are joined only when no code point lies between them. -/
theorem covers_of_merge {acc : Array (Nat × Nat)} {next : Nat × Nat} {n : Nat}
    (h : Covers (merge acc next).toList n) : Covers acc.toList n ∨ Covers [next] n := by
  unfold merge at h
  split at h
  · rename_i last hlast
    obtain ⟨rest, rfl⟩ := Array.back?_eq_some_iff.mp hlast
    split at h
    · rw [Array.pop_push, Array.toList_push, covers_append] at h
      rw [Array.toList_push, covers_append, or_assoc]
      refine h.imp_right ?_
      rintro ⟨p, hp, hlo, hhi⟩
      rw [List.mem_singleton] at hp
      subst hp
      by_cases hle : n ≤ last.2
      · exact .inl ⟨last, List.mem_singleton_self last, hlo, hle⟩
      · refine .inr ⟨next, List.mem_singleton_self next, by omega, ?_⟩
        exact (le_max_iff.mp hhi).resolve_left hle
    · rwa [Array.toList_push, covers_append] at h
  · rwa [Array.toList_push, covers_append] at h

theorem covers_of_foldl_merge {l : List (Nat × Nat)} {acc : Array (Nat × Nat)} {n : Nat}
    (h : Covers (l.foldl merge acc).toList n) : Covers acc.toList n ∨ Covers l n := by
  induction l generalizing acc with
  | nil => exact .inl h
  | cons p l ih =>
      rw [← List.singleton_append, covers_append, ← or_assoc]
      exact (ih h).imp_left covers_of_merge

theorem covers_of_ofIntervals {l : List (Nat × Nat)} {n : Nat}
    (h : Covers (ofIntervals l).intervals.toList n) : Covers l n := by
  obtain ⟨p, hp, -⟩ | ⟨p, hp, hn⟩ := covers_of_foldl_merge h
  · cases hp
  · exact ⟨p, (List.mem_mergeSort).mp hp, hn⟩

theorem exists_of_covers_unions {l : List CharSet} {n : Nat}
    (h : Covers (unions l).intervals.toList n) : ∃ s ∈ l, Covers s.intervals.toList n := by
  obtain ⟨p, hp, hn⟩ := covers_of_ofIntervals h
  obtain ⟨s, hs, hp⟩ := List.mem_flatMap.mp hp
  exact ⟨s, hs, p, hp, hn⟩

end CharSet

/-- The words of a table that is given as a list of characters. -/
def wordsAmong (t : List Char) : List (List Char) :=
  let step := fun (acc : List Char × List (List Char)) (c : Char) =>
    if c = ' ' ∨ c = '\n' then
      if acc.1.isEmpty then acc else ([], acc.1 :: acc.2)
    else (c :: acc.1, acc.2)
  let last := t.foldl step ([], [])
  let reversed := if last.1.isEmpty then last.2 else last.1 :: last.2
  reversed.reverse.map List.reverse

theorem tableWords_ofList (t : List Char) : tableWords (String.ofList t) = wordsAmong t := by
  unfold tableWords wordsAmong
  rw [String.toList_ofList]

/-- The code points of the blanks that are not in ASCII. -/
def farBlanks : List (Nat × Nat) :=
  [(0x85, 0x85), (0xA0, 0xA0), (0x1680, 0x1680), (0x2000, 0x200A), (0x2028, 0x2029),
    (0x202F, 0x202F), (0x205F, 0x205F), (0x3000, 0x3000)]

/-- Whether no entry of a table has a blank that is not in ASCII. -/
def keepsClear (t : List Char) : Bool :=
  (wordsAmong t).all fun w =>
    farBlanks.all fun p => (tableInterval w).2 < p.1 || p.2 < (tableInterval w).1

theorem not_covers_ofTable {t : List Char} (ht : keepsClear t = true) {n : Nat}
    (hn : Covers farBlanks n) : ¬Covers (CharSet.ofTable (String.ofList t)).intervals.toList n := by
  rintro ⟨q, hq, hlo, hhi⟩
  obtain ⟨p, hp, hlo', hhi'⟩ := hn
  rw [CharSet.ofTable, tableWords_ofList] at hq
  obtain ⟨w, hw, rfl⟩ := List.mem_map.mp hq
  have hclear := List.all_eq_true.mp (List.all_eq_true.mp ht w hw) p hp
  simp only [Bool.or_eq_true, decide_eq_true_eq] at hclear
  omega

/-- The categories of the word characters. -/
def wordCategories : List GeneralCategory :=
  .decimalNumber :: .connectorPunctuation :: .letterNumber ::
    (GeneralCategory.marks ++ GeneralCategory.letters)

-- A table is a long literal; as a list of characters it is the same by definition, and only in
-- that form it can be gone through quickly.
set_option maxRecDepth 100000 in
theorem table_keepsClear {g : GeneralCategory} (hg : g ∈ wordCategories) :
    ∃ t, g.table = String.ofList t ∧ keepsClear t = true := by
  simp only [wordCategories, GeneralCategory.marks, GeneralCategory.letters, List.cons_append,
    List.nil_append, List.mem_cons, List.not_mem_nil, or_false] at hg
  rcases hg with rfl | rfl | rfl | rfl | rfl | rfl | rfl | rfl | rfl | rfl | rfl
  all_goals exact ⟨_, rfl, by decide +kernel⟩

set_option maxRecDepth 100000 in
theorem not_covers_otherAlphabetic {n : Nat} (hn : Covers farBlanks n) :
    ¬Covers Binary.otherAlphabetic.intervals.toList n := by
  obtain ⟨t, ht, hclear⟩ : ∃ t, Binary.otherAlphabetic = .ofTable (String.ofList t) ∧
      keepsClear t = true := ⟨_, rfl, by decide +kernel⟩
  rw [ht]
  exact not_covers_ofTable hclear hn

theorem not_covers_joinControl {n : Nat} (hn : Covers farBlanks n) :
    ¬Covers Binary.joinControl.intervals.toList n :=
  not_covers_ofTable (t := "200C-200D".toList) (by decide) hn

theorem not_covers_charSetOf {l : List GeneralCategory} (hl : l ⊆ wordCategories) {n : Nat}
    (hn : Covers farBlanks n) : ¬Covers (GeneralCategory.charSetOf l).intervals.toList n := by
  intro h
  obtain ⟨s, hs, hcovers⟩ := CharSet.exists_of_covers_unions h
  obtain ⟨g, hg, rfl⟩ := List.mem_map.mp hs
  obtain ⟨t, ht, hclear⟩ := table_keepsClear (hl hg)
  rw [GeneralCategory.charSet, ht] at hcovers
  exact not_covers_ofTable hclear hn hcovers

theorem not_covers_wordSet {n : Nat} (hn : Covers farBlanks n) :
    ¬Covers wordSet.intervals.toList n := by
  intro h
  obtain ⟨s, hs, hcovers⟩ := CharSet.exists_of_covers_unions h
  simp only [List.mem_cons, List.not_mem_nil, or_false] at hs
  rcases hs with rfl | rfl | rfl
  · rcases covers_append.mp (CharSet.covers_of_ofIntervals hcovers) with hletter | hother
    · exact not_covers_charSetOf (by decide) hn hletter
    · exact not_covers_otherAlphabetic hn hother
  · exact not_covers_joinControl hn hcovers
  · exact not_covers_charSetOf (by decide) hn hcovers

theorem covers_farBlanks {c : Char} (h : isBlank c = true) (hfar : 128 ≤ c.toNat) :
    Covers farBlanks c.toNat := by
  rw [isBlank_iff] at h
  simp only [Covers, farBlanks, List.mem_cons, List.not_mem_nil, or_false, exists_eq_or_imp,
    exists_eq_left]
  omega

theorem isWord_of_isBlank {c : Char} (h : isBlank c = true) : isWord c = false := by
  rw [Bool.eq_false_iff]
  intro hword
  unfold isWord at hword
  split at hword
  · rename_i hnear
    rw [isBlank_iff] at h
    simp only [isAsciiWord, Char.isAlphanum, Bool.or_eq_true, isAlpha_iff, isDigit_iff,
      beq_iff_eq, ← Char.toNat_inj] at hword
    change (_ ∨ _) ∨ c.toNat = 95 at hword
    omega
  · rename_i hfar
    exact not_covers_wordSet (covers_farBlanks h (by omega)) (CharSet.covers_of_search hword)

end CopyFormat.Unicode
