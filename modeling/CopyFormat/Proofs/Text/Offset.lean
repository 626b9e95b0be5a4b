import CopyFormat.Text.Offset

namespace CopyFormat.Text

@[simp] theorem size_nil : size [] = 0 := rfl

@[simp] theorem size_cons (c : Char) (t : Text) : size (c :: t) = c.utf8Size + size t := rfl

@[simp] theorem size_append (s t : Text) : size (s ++ t) = size s + size t := by
  induction s with
  | nil => simp
  | cons c s ih => rw [List.cons_append, size_cons, size_cons, ih, Nat.add_assoc]

theorem size_eq_zero_iff {t : Text} : size t = 0 ↔ t = [] := by
  cases t with
  | nil => simp
  | cons c r =>
      have := c.utf8Size_pos
      simp only [size_cons, reduceCtorEq, iff_false]
      omega

/-- A place between two characters. -/
def IsBoundary (t : Text) (n : Nat) : Prop := ∃ u v, t = u ++ v ∧ n = size u

theorem IsBoundary.zero (t : Text) : IsBoundary t 0 := ⟨[], t, rfl, rfl⟩

theorem IsBoundary.le_size {t : Text} {n : Nat} (h : IsBoundary t n) : n ≤ size t := by
  obtain ⟨u, v, rfl, rfl⟩ := h
  simp

theorem IsBoundary.split {t : Text} {m n : Nat} (hm : IsBoundary t m) (hn : IsBoundary t n)
    (hmn : m ≤ n) : ∃ u v w, t = u ++ v ++ w ∧ m = size u ∧ n = size (u ++ v) := by
  obtain ⟨u, v, rfl, rfl⟩ := hm
  obtain ⟨u', v', heq, rfl⟩ := hn
  rcases List.append_eq_append_iff.mp heq with ⟨w, rfl, rfl⟩ | ⟨w, rfl, rfl⟩
  · exact ⟨u, w, v', by simp, rfl, rfl⟩
  · have hw : w = [] := by
      rw [size_append] at hmn
      exact size_eq_zero_iff.mp (by omega)
    subst hw
    exact ⟨u', [], v, by simp, by simp, by simp⟩

theorem behind?_zero (t : Text) : behind? 0 t = some t := by
  cases t <;> rfl

theorem before?_zero (t : Text) : before? 0 t = some [] := by
  cases t <;> rfl

theorem behind?_cons (c : Char) (n : Nat) (t : Text) :
    behind? (c.utf8Size + n) (c :: t) = behind? n t := by
  have hpos := c.utf8Size_pos
  obtain ⟨k, hk⟩ : ∃ k, c.utf8Size + n = k + 1 := ⟨c.utf8Size + n - 1, by omega⟩
  rw [hk, behind?, if_pos (by omega)]
  congr 1
  omega

theorem before?_cons (c : Char) (n : Nat) (t : Text) :
    before? (c.utf8Size + n) (c :: t) = (before? n t).map (c :: ·) := by
  have hpos := c.utf8Size_pos
  obtain ⟨k, hk⟩ : ∃ k, c.utf8Size + n = k + 1 := ⟨c.utf8Size + n - 1, by omega⟩
  rw [hk, before?, if_pos (by omega)]
  congr 2
  omega

@[simp] theorem behind?_size_append (u v : Text) : behind? (size u) (u ++ v) = some v := by
  induction u with
  | nil => exact behind?_zero v
  | cons c u ih => rw [size_cons, List.cons_append, behind?_cons, ih]

@[simp] theorem before?_size_append (u v : Text) : before? (size u) (u ++ v) = some u := by
  induction u with
  | nil => exact before?_zero v
  | cons c u ih => rw [size_cons, List.cons_append, before?_cons, ih, Option.map_some]

theorem isBoundary_of_before? {t u : Text} {n : Nat} (h : before? n t = some u) :
    ∃ v, t = u ++ v ∧ n = size u := by
  induction t generalizing n u with
  | nil =>
      cases n with
      | zero =>
          cases h
          exact ⟨[], rfl, rfl⟩
      | succ n => cases h
  | cons c t ih =>
      cases n with
      | zero =>
          cases h
          exact ⟨c :: t, rfl, rfl⟩
      | succ n =>
          rw [before?] at h
          split at h
          · rename_i hle
            obtain ⟨u', hu', rfl⟩ := Option.map_eq_some_iff.mp h
            obtain ⟨v, rfl, hn⟩ := ih hu'
            exact ⟨v, rfl, by rw [size_cons]; omega⟩
          · cases h

theorem between?_eq_some {u v w : Text} :
    between? (u ++ v ++ w) (size u) (size (u ++ v)) = some v := by
  rw [between?, if_pos (by simp), List.append_assoc, behind?_size_append, Option.bind_some,
    size_append, Nat.add_sub_cancel_left, before?_size_append]

theorem between?_of_boundaries {t : Text} {m n : Nat} (hm : IsBoundary t m) (hn : IsBoundary t n)
    (hmn : m ≤ n) : ∃ s, between? t m n = some s := by
  obtain ⟨u, v, w, rfl, rfl, rfl⟩ := hm.split hn hmn
  exact ⟨v, between?_eq_some⟩

theorem behind?_of_boundary {t : Text} {n : Nat} (h : IsBoundary t n) :
    ∃ s, behind? n t = some s := by
  obtain ⟨u, v, rfl, rfl⟩ := h
  exact ⟨v, behind?_size_append u v⟩

theorem before?_of_boundary {t : Text} {n : Nat} (h : IsBoundary t n) :
    ∃ s, before? n t = some s := by
  obtain ⟨u, v, rfl, rfl⟩ := h
  exact ⟨u, before?_size_append u v⟩

theorem behind?_eq_between?_append {t : Text} {m n : Nat} (hm : IsBoundary t m)
    (hn : IsBoundary t n) (hmn : m ≤ n) {s r : Text} (hs : between? t m n = some s)
    (hr : behind? n t = some r) : behind? m t = some (s ++ r) := by
  obtain ⟨u, v, w, rfl, rfl, rfl⟩ := hm.split hn hmn
  rw [between?_eq_some] at hs
  rw [behind?_size_append] at hr
  cases hs
  cases hr
  rw [List.append_assoc, behind?_size_append]

end CopyFormat.Text
