import CopyFormat.Text.Basic

/-!
Parts that are cut out of a list at elements of a class, so that such an element, or nothing, stands
right before and right behind them. The stretches of a list are the parts of this kind that hold no
element of the class.
-/

namespace CopyFormat.Text

variable {α β : Type} {p : α → Bool} {l w v : List α} {a : α}

/-- `w` stands in `l` between elements that satisfy `p` or the ends of `l`. -/
def CutOut (p : α → Bool) (l w : List α) : Prop :=
  ∃ before behind, l = before ++ (w ++ behind) ∧ (∀ a ∈ before.getLast?, p a = true) ∧
    ∀ a ∈ behind.head?, p a = true

namespace CutOut

theorem refl (p : α → Bool) (l : List α) : CutOut p l l :=
  ⟨[], [], by simp, by simp, by simp⟩

/-- What stands around the inner part is what stands around it in the outer one, or, at the ends of
that, what stands around the outer one. -/
theorem trans (h : CutOut p l w) (h' : CutOut p w v) : CutOut p l v := by
  obtain ⟨before, behind, rfl, hbefore, hbehind⟩ := h
  obtain ⟨before', behind', rfl, hbefore', hbehind'⟩ := h'
  refine ⟨before ++ before', behind' ++ behind, by simp, ?_, ?_⟩
  · intro a ha
    rw [List.getLast?_append, Option.mem_def, Option.or_eq_some_iff] at ha
    rcases ha with ha | ⟨-, ha⟩
    · exact hbefore' a ha
    · exact hbefore a ha
  · intro a ha
    rw [List.head?_append, Option.mem_def, Option.or_eq_some_iff] at ha
    rcases ha with ha | ⟨-, ha⟩
    · exact hbehind' a ha
    · exact hbehind a ha

theorem behind (ha : p a = true) (u w : List α) : CutOut p (u ++ a :: w) w :=
  ⟨u ++ [a], [], by simp, by simpa using ha, by simp⟩

theorem before (ha : p a = true) (w v : List α) : CutOut p (w ++ a :: v) w :=
  ⟨[], a :: v, by simp, by simp, by simpa using ha⟩

theorem of_forall {u v : List α} (hu : ∀ a ∈ u, p a = true) (hv : ∀ a ∈ v, p a = true)
    (w : List α) : CutOut p (u ++ (w ++ v)) w :=
  ⟨u, v, rfl, fun a ha => hu a (List.mem_of_getLast? ha), fun a ha => hv a (List.mem_of_head? ha)⟩

theorem map {q : β → Bool} {f : α → β} (hf : ∀ a, p a = true → q (f a) = true)
    (h : CutOut p l w) : CutOut q (l.map f) (w.map f) := by
  obtain ⟨before, behind, rfl, hbefore, hbehind⟩ := h
  refine ⟨before.map f, behind.map f, by simp, ?_, ?_⟩
  · intro b hb
    rw [List.getLast?_map, Option.mem_def, Option.map_eq_some_iff] at hb
    obtain ⟨a, ha, rfl⟩ := hb
    exact hf a (hbefore a ha)
  · intro b hb
    rw [List.head?_map, Option.mem_def, Option.map_eq_some_iff] at hb
    obtain ⟨a, ha, rfl⟩ := hb
    exact hf a (hbehind a ha)

theorem mono {q : α → Bool} (hq : ∀ a, p a = true → q a = true) (h : CutOut p l w) :
    CutOut q l w := by
  simpa using h.map (f := id) hq

theorem isInfix (h : CutOut p l w) : w <:+: l := by
  obtain ⟨before, behind, rfl, -, -⟩ := h
  exact ⟨before, behind, List.append_assoc ..⟩

end CutOut

theorem stretches_ne_nil (p : α → Bool) (l : List α) : stretches p l ≠ [] := by
  cases l with
  | nil => exact List.cons_ne_nil _ _
  | cons b l =>
      rw [stretches]
      split
      · exact List.cons_ne_nil _ _
      · split
        · exact List.cons_ne_nil _ _
        · exact List.cons_ne_nil _ _

theorem stretches_append_cons (ha : p a = true) (l r : List α) :
    stretches p (l ++ a :: r) = stretches p l ++ stretches p r := by
  induction l with
  | nil => simp [stretches, ha]
  | cons b l ih =>
      rw [List.cons_append, stretches, stretches, ih]
      split
      · rfl
      · cases hl : stretches p l with
        | nil => exact absurd hl (stretches_ne_nil p l)
        | cons w ws => rfl

theorem stretches_of_none (hl : ∀ b ∈ l, p b = false) : stretches p l = [l] := by
  induction l with
  | nil => rfl
  | cons b l ih =>
      have hb := hl b List.mem_cons_self
      rw [stretches, hb, ih fun c hc => hl c (List.mem_cons_of_mem b hc)]
      rfl

theorem stretch_induction (p : α → Bool) {P : List α → Prop}
    (none : ∀ w, (∀ b ∈ w, p b = false) → P w)
    (cut : ∀ w a r, (∀ b ∈ w, p b = false) → p a = true → P r → P (w ++ a :: r)) (l : List α) :
    P l := by
  -- `u` is what has been read of the first stretch
  suffices h : ∀ u : List α, (∀ b ∈ u, p b = false) → P (u ++ l) by
    exact h [] (by simp)
  induction l with
  | nil =>
      intro u hu
      rw [List.append_nil]
      exact none u hu
  | cons c l ih =>
      intro u hu
      cases hc : p c with
      | true => exact cut u c l hu hc (ih [] (by simp))
      | false =>
          rw [← List.singleton_append, ← List.append_assoc]
          refine ih (u ++ [c]) ?_
          rw [List.forall_mem_append, List.forall_mem_singleton]
          exact ⟨hu, hc⟩

theorem cutOut_of_mem_stretches (h : w ∈ stretches p l) :
    CutOut p l w ∧ ∀ b ∈ w, p b = false := by
  induction l using stretch_induction p with
  | none u hu =>
      rw [stretches_of_none hu, List.mem_singleton] at h
      subst h
      exact ⟨.refl p w, hu⟩
  | cut u a r hu ha ih =>
      rw [stretches_append_cons ha, stretches_of_none hu, List.singleton_append,
        List.mem_cons] at h
      rcases h with rfl | h
      · exact ⟨.before ha w r, hu⟩
      · exact (ih h).imp_left (CutOut.behind ha u r).trans

theorem mem_stretches_of_cutOut (h : CutOut p l w) (hw : ∀ b ∈ w, p b = false) :
    w ∈ stretches p l := by
  obtain ⟨before, behind, rfl, hbefore, hbehind⟩ := h
  have hinner : w ∈ stretches p (w ++ behind) := by
    cases behind with
    | nil => rw [List.append_nil, stretches_of_none hw, List.mem_singleton]
    | cons c v =>
        rw [stretches_append_cons (hbehind c rfl), stretches_of_none hw]
        exact List.mem_cons_self
  rcases List.eq_nil_or_concat before with rfl | ⟨u, c, rfl⟩
  · exact hinner
  · have hc : p c = true := hbefore c (by simp)
    rw [List.concat_eq_append, List.append_assoc, List.singleton_append, stretches_append_cons hc]
    exact List.mem_append_right _ hinner

theorem mem_stretches_iff :
    w ∈ stretches p l ↔ CutOut p l w ∧ ∀ b ∈ w, p b = false :=
  ⟨cutOut_of_mem_stretches, fun h => mem_stretches_of_cutOut h.1 h.2⟩

end CopyFormat.Text
