import Mathlib
import CopyFormat.Text.Blank

/-!
Blank texts and trimming.
-/

namespace CopyFormat.Text

theorem isBlankText_iff {t : Text} : t.isBlankText = true ↔ ∀ c ∈ t, isBlank c = true := by
  rw [isBlankText, List.all_eq_true]

theorem isBlankText_append {s t : Text} :
    (s ++ t).isBlankText = true ↔ s.isBlankText = true ∧ t.isBlankText = true := by
  rw [isBlankText, List.all_append, Bool.and_eq_true]
  rfl

theorem isBlankText_of_mem {t : Text} {c : Char} (hc : c ∈ t) (h : isBlank c = false) :
    t.isBlankText = false := by
  rw [Bool.eq_false_iff, ne_eq, isBlankText_iff]
  intro hall
  rw [hall c hc] at h
  cases h

theorem isBlankText_reverse (t : Text) : isBlankText t.reverse = t.isBlankText := by
  simp [isBlankText]

theorem trimStart_of_blank {t : Text} (h : t.isBlankText = true) : trimStart t = [] := by
  rw [isBlankText_iff] at h
  rw [trimStart, List.dropWhile_eq_nil_iff]
  exact h

theorem trimStart_eq_nil_iff {t : Text} : trimStart t = [] ↔ t.isBlankText = true := by
  rw [isBlankText_iff, trimStart, List.dropWhile_eq_nil_iff]

theorem trimStart_cons {c : Char} (h : isBlank c = false) (t : Text) :
    trimStart (c :: t) = c :: t := by
  rw [trimStart, List.dropWhile_cons_of_neg (by simp [h])]

theorem trimStart_of_head? {t : Text} {c : Char} (hhead : t.head? = some c)
    (hc : isBlank c = false) : trimStart t = t := by
  obtain ⟨r, rfl⟩ := List.head?_eq_some_iff.mp hhead
  exact trimStart_cons hc r

theorem trimStart_blank_append {u : Text} (h : u.isBlankText = true) (t : Text) :
    trimStart (u ++ t) = trimStart t := by
  have hu := trimStart_of_blank h
  rw [trimStart] at hu
  rw [trimStart, List.dropWhile_append, hu]
  rfl

theorem trimStart_append {s : Text} (h : s.isBlankText = false) (t : Text) :
    trimStart (s ++ t) = trimStart s ++ t := by
  have hs : trimStart s ≠ [] := by
    rw [ne_eq, trimStart_eq_nil_iff, h]
    exact Bool.false_ne_true
  rw [trimStart] at hs
  rw [trimStart, List.dropWhile_append, if_neg (by simpa using hs)]
  rfl

theorem exists_trimStart (t : Text) : ∃ u : Text, u.isBlankText = true ∧ t = u ++ trimStart t := by
  refine ⟨t.takeWhile isBlank, ?_, (List.takeWhile_append_dropWhile).symm⟩
  rw [isBlankText_iff]
  intro c hc
  exact List.mem_takeWhile_imp hc

theorem trimStart_trimStart (t : Text) : trimStart (trimStart t) = trimStart t := by
  obtain ⟨u, hu, ht⟩ := exists_trimStart t
  conv_rhs => rw [ht, trimStart_blank_append hu]

theorem trimEnd_eq_reverse (t : Text) : trimEnd t = (trimStart t.reverse).reverse := rfl

theorem trimEnd_concat {c : Char} (h : isBlank c = false) (t : Text) :
    trimEnd (t ++ [c]) = t ++ [c] := by
  rw [trimEnd_eq_reverse, List.reverse_append, List.reverse_singleton, List.singleton_append,
    trimStart_cons h, List.reverse_cons, List.reverse_reverse]

theorem trimEnd_of_getLast? {t : Text} {c : Char} (hlast : t.getLast? = some c)
    (hc : isBlank c = false) : trimEnd t = t := by
  obtain ⟨s, rfl⟩ := List.getLast?_eq_some_iff.mp hlast
  exact trimEnd_concat hc s

theorem trimEnd_append_blank {v : Text} (h : v.isBlankText = true) (t : Text) :
    trimEnd (t ++ v) = trimEnd t := by
  rw [← isBlankText_reverse] at h
  rw [trimEnd_eq_reverse, List.reverse_append, trimStart_blank_append h]
  rfl

theorem trimEnd_append (s : Text) {t : Text} (h : t.isBlankText = false) :
    trimEnd (s ++ t) = s ++ trimEnd t := by
  rw [← isBlankText_reverse] at h
  rw [trimEnd_eq_reverse, List.reverse_append, trimStart_append h, List.reverse_append,
    List.reverse_reverse]
  rfl

theorem exists_trimEnd (t : Text) : ∃ v : Text, v.isBlankText = true ∧ t = trimEnd t ++ v := by
  obtain ⟨u, hu, ht⟩ := exists_trimStart t.reverse
  refine ⟨u.reverse, by rw [isBlankText_reverse, hu], ?_⟩
  rw [trimEnd_eq_reverse, ← List.reverse_append, ← ht, List.reverse_reverse]

theorem trim_of_blank {t : Text} (h : t.isBlankText = true) : trim t = [] := by
  rw [trim, trimStart_of_blank h]
  rfl

theorem trim_eq_nil_iff {t : Text} : trim t = [] ↔ t.isBlankText = true := by
  refine ⟨fun h => ?_, trim_of_blank⟩
  rw [trim, trimEnd_eq_reverse, List.reverse_eq_nil_iff, trimStart_eq_nil_iff,
    isBlankText_reverse] at h
  obtain ⟨u, hu, ht⟩ := exists_trimStart t
  rw [ht]
  exact isBlankText_append.mpr ⟨hu, h⟩

theorem trim_blank_append {u : Text} (h : u.isBlankText = true) (t : Text) :
    trim (u ++ t) = trim t := by
  rw [trim, trimStart_blank_append h]
  rfl

theorem trim_append_blank {v : Text} (h : v.isBlankText = true) (t : Text) :
    trim (t ++ v) = trim t := by
  cases ht : t.isBlankText with
  | true => rw [trim_of_blank ht, trim_of_blank (isBlankText_append.mpr ⟨ht, h⟩)]
  | false => rw [trim, trimStart_append ht, trimEnd_append_blank h, trim]

theorem exists_trim (t : Text) :
    ∃ u v : Text, u.isBlankText = true ∧ v.isBlankText = true ∧ t = u ++ (trim t ++ v) := by
  obtain ⟨u, hu, ht⟩ := exists_trimStart t
  obtain ⟨v, hv, ht'⟩ := exists_trimEnd (trimStart t)
  refine ⟨u, v, hu, hv, ?_⟩
  rw [trim, ← ht']
  exact ht

theorem trim_trimStart (t : Text) : trim (trimStart t) = trim t := by
  obtain ⟨u, hu, ht⟩ := exists_trimStart t
  conv_rhs => rw [ht, trim_blank_append hu]

theorem trim_trimEnd (t : Text) : trim (trimEnd t) = trim t := by
  obtain ⟨v, hv, ht⟩ := exists_trimEnd t
  conv_rhs => rw [ht, trim_append_blank hv]

theorem trim_trim (t : Text) : trim (trim t) = trim t := by
  rw [show trim t = trimEnd (trimStart t) from rfl, trim_trimEnd, trim_trimStart]
  rfl

theorem trim_subset (t : Text) : trim t ⊆ t := by
  obtain ⟨u, v, -, -, ht⟩ := exists_trim t
  intro c hc
  rw [ht]
  exact List.mem_append_right u (List.mem_append_left v hc)

theorem trim_of_ends {t : Text} {c d : Char} (hhead : t.head? = some c) (hc : isBlank c = false)
    (hlast : t.getLast? = some d) (hd : isBlank d = false) : trim t = t := by
  obtain ⟨r, rfl⟩ := List.head?_eq_some_iff.mp hhead
  rw [trim, trimStart_cons hc, trimEnd_of_getLast? hlast hd]

theorem trim_append_of_getLast? {s t : Text} {c : Char} (hs : s.isBlankText = false)
    (hlast : t.getLast? = some c) (hc : isBlank c = false) : trim (s ++ t) = trimStart s ++ t := by
  obtain ⟨r, rfl⟩ := List.getLast?_eq_some_iff.mp hlast
  rw [trim, trimStart_append hs, ← List.append_assoc, trimEnd_concat hc]

end CopyFormat.Text
