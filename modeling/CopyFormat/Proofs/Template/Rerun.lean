import CopyFormat.Proofs.Template.Expansion

/-!
Expanding a text that has been expanded already. When no value of the page has the shape of a
placeholder in it, a second pass changes the text just when a placeholder has formed in it, and that
can only happen across an end of an inserted value.
-/

namespace CopyFormat.Template

open Text

/-- Something of the shape of a placeholder stands in the text. -/
def HoldsPlaceholder (t : Text) : Prop := ∃ name, IsName name ∧ placeholder name <:+: t

theorem not_holdsPlaceholder {t : Text} (h : '\x7b' ∉ t) : ¬HoldsPlaceholder t := by
  rintro ⟨name, -, hstands⟩
  exact h (hstands.subset List.mem_cons_self)

theorem not_isInfix_value {v : PageValues} (hv : ∀ p ∈ v.named, ¬HoldsPlaceholder p.2)
    {p q : String × Text} (hp : p ∈ v.named) (hq : q ∈ v.named) :
    ¬placeholder p.1.toList <:+: q.2 :=
  fun hstands => hv q hq ⟨p.1.toList, isName_of_mem_named hp, hstands⟩

section

variable {v : PageValues} (hv : ∀ p ∈ v.named, ¬HoldsPlaceholder p.2) {t : Text}

include hv in
/-- Expansion cannot put something in front of a text and leave the rest as it is: the first value
that reaches over the placeholder that it stands for would have that placeholder in it. -/
theorem expand_ne_append {w : Text} (hw : w ≠ []) (t : Text) : expand t v ≠ w ++ t := by
  induction t using reading_induction v.named generalizing w with
  | nil =>
      intro h
      rw [List.append_nil] at h
      exact hw h.symm
  | placed p hp r ih =>
      intro h
      rw [expand_placeholder hp, ← List.append_assoc, List.append_eq_append_iff] at h
      rcases h with ⟨w', hlead, hrest⟩ | ⟨u, hvalue, -⟩
      · by_cases hw' : w' = []
        · rw [hw', List.append_nil] at hlead
          exact not_isInfix_value hv hp hp ⟨w, [], by rw [List.append_nil, hlead]⟩
        · exact ih hw' hrest
      · exact not_isInfix_value hv hp hp ⟨w, u, hvalue.symm⟩
  | single c r hnone ih =>
      intro h
      obtain ⟨d, w', rfl⟩ := List.exists_cons_of_ne_nil hw
      rw [expand_single hnone, List.cons_append, List.cons.injEq] at h
      exact ih (w := w' ++ [c]) (by simp) (by rw [h.2, List.append_assoc, List.singleton_append])

theorem expand_of_not_isInfix (h : ∀ p ∈ v.named, ¬placeholder p.1.toList <:+: t) :
    expand t v = t := by
  induction t using reading_induction v.named with
  | nil => rfl
  | placed p hp r _ => exact absurd (List.prefix_append _ r).isInfix (h p hp)
  | single c r hnone ih =>
      rw [expand_single hnone, ih fun p hp hstands => h p hp (List.infix_cons hstands)]

include hv in
theorem not_isInfix_of_expand_eq (h : expand t v = t) :
    ∀ p ∈ v.named, ¬placeholder p.1.toList <:+: t := by
  induction t using reading_induction v.named with
  | nil =>
      intro p _ hstands
      simp [placeholder] at hstands
  | placed q hq r _ =>
      rw [expand_placeholder hq, List.append_eq_append_iff] at h
      rcases h with ⟨w, hlead, hrest⟩ | ⟨u, hvalue, -⟩
      · by_cases hw : w = []
        · rw [hw, List.append_nil] at hlead
          exact absurd (hlead ▸ List.infix_refl _) (not_isInfix_value hv hq hq)
        · exact absurd hrest (expand_ne_append hv hw r)
      · exact absurd ⟨[], u, hvalue.symm⟩ (not_isInfix_value hv hq hq)
  | single c r hnone ih =>
      intro p hp hstands
      rw [expand_single hnone, List.cons.injEq] at h
      rcases List.infix_cons_iff.mp hstands with hlead | hrest
      · exact hnone p hp hlead
      · exact ih h.2 p hp hrest

include hv in
theorem expand_eq_self_iff : expand t v = t ↔ ∀ p ∈ v.named, ¬placeholder p.1.toList <:+: t :=
  ⟨not_isInfix_of_expand_eq hv, expand_of_not_isInfix⟩

/-- An inserted value starts or ends strictly between two places of the expanded text. -/
def HasSeamBetween (v : PageValues) (t : Text) (i j : Nat) : Prop :=
  ∃ a, ∃ p ∈ v.named, ∃ b, t = a ++ placeholder p.1.toList ++ b ∧
    ∃ edge ∈ [(expand a v).length, (expand a v ++ p.2).length], i < edge ∧ edge < j

theorem expand_cons_of_append {c : Char} {a b : Text}
    (h : ∀ p ∈ v.named, ¬placeholder p.1.toList <+: c :: (a ++ b)) :
    expand (c :: a) v = c :: expand a v :=
  expand_single fun p hp hstands => h p hp (hstands.trans (List.prefix_append (c :: a) b))

theorem HasSeamBetween.cons {c : Char} {i j : Nat}
    (hc : ∀ p ∈ v.named, ¬placeholder p.1.toList <+: c :: t) (h : HasSeamBetween v t i j) :
    HasSeamBetween v (c :: t) (i + 1) (j + 1) := by
  obtain ⟨a, p, hp, b, rfl, edge, hedge, hi, hj⟩ := h
  rw [List.append_assoc] at hc
  refine ⟨c :: a, p, hp, b, rfl, edge + 1, ?_, Nat.succ_lt_succ hi, Nat.succ_lt_succ hj⟩
  rw [expand_cons_of_append hc]
  simpa using hedge

theorem HasSeamBetween.placed {p : String × Text} (hp : p ∈ v.named) {i j : Nat}
    (h : HasSeamBetween v t i j) :
    HasSeamBetween v (placeholder p.1.toList ++ t) (p.2.length + i) (p.2.length + j) := by
  obtain ⟨a, q, hq, b, rfl, edge, hedge, hi, hj⟩ := h
  refine ⟨placeholder p.1.toList ++ a, q, hq, b, by simp, p.2.length + edge, ?_,
    Nat.add_lt_add_left hi _, Nat.add_lt_add_left hj _⟩
  rw [expand_placeholder hp]
  simpa [Nat.add_assoc] using hedge

theorem prefix_of_prefix_expand {w : Text} (hw : w <+: expand t v)
    (h : ∀ a, ∀ p ∈ v.named, ∀ b, t = a ++ placeholder p.1.toList ++ b →
      w.length ≤ (expand a v).length) : w <+: t := by
  induction t using reading_induction v.named generalizing w with
  | nil => exact hw
  | placed p hp r _ =>
      have hempty : w = [] := by simpa [expand, rewrite] using h [] p hp r rfl
      rw [hempty]
      exact List.nil_prefix
  | single c r hnone ih =>
      cases w with
      | nil => exact List.nil_prefix
      | cons d w =>
          rw [expand_single hnone, List.cons_prefix_cons] at hw
          refine List.cons_prefix_cons.mpr ⟨hw.1, ih hw.2 ?_⟩
          rintro a p hp b rfl
          rw [List.append_assoc] at hnone
          have hle := h (c :: a) p hp b rfl
          rw [expand_cons_of_append hnone] at hle
          exact Nat.le_of_succ_le_succ hle

include hv in
/-- A placeholder that stands in the expanded text lies across an end of an inserted value: what the
template has itself is replaced, and the values have none. -/
theorem hasSeamBetween_of_expand_eq {p : String × Text} (hp : p ∈ v.named) {x y : Text}
    (h : expand t v = x ++ placeholder p.1.toList ++ y) :
    HasSeamBetween v t x.length (x.length + span p.1) := by
  induction t using reading_induction v.named generalizing x with
  | nil => simp [expand, rewrite, placeholder] at h
  | placed q hq r ih =>
      rw [expand_placeholder hq] at h
      rcases Nat.lt_or_ge x.length q.2.length with hbefore | hbehind
      · refine ⟨[], q, hq, r, rfl, q.2.length, by simp [expand, rewrite], hbefore, ?_⟩
        by_contra hle
        refine not_isInfix_value hv hp hq ?_
        have hprefix : x ++ placeholder p.1.toList <+: q.2 := by
          refine List.prefix_of_prefix_length_le ⟨y, h.symm⟩ (List.prefix_append _ _) ?_
          rw [List.length_append]
          exact Nat.le_of_not_lt hle
        exact (List.suffix_append x _).isInfix.trans hprefix.isInfix
      · -- the placeholder begins behind the value
        obtain ⟨x', rfl⟩ : q.2 <+: x := by
          refine List.prefix_of_prefix_length_le (List.prefix_append q.2 (expand r v)) ?_ hbehind
          rw [h, List.append_assoc]
          exact List.prefix_append _ _
        rw [List.append_assoc, List.append_assoc, List.append_cancel_left_eq,
          ← List.append_assoc] at h
        rw [List.length_append, Nat.add_assoc]
        exact (ih h).placed hq
  | single c r hnone ih =>
      rw [expand_single hnone] at h
      cases x with
      | nil =>
          -- otherwise the template itself would start with the placeholder
          by_contra hseam
          have hlead : placeholder p.1.toList <+: expand (c :: r) v := by
            rw [expand_single hnone]
            exact ⟨y, h.symm⟩
          refine hnone p hp (prefix_of_prefix_expand hlead ?_)
          intro a q hq b hsplit
          by_contra hlt
          refine hseam ⟨a, q, hq, b, hsplit, (expand a v).length, by simp, ?_, ?_⟩
          · cases a with
            | nil => exact absurd ⟨b, hsplit.symm⟩ (hnone q hq)
            | cons d a =>
                rw [List.append_assoc, List.cons_append, List.cons.injEq] at hsplit
                obtain ⟨rfl, rfl⟩ := hsplit
                rw [expand_cons_of_append hnone]
                exact Nat.succ_pos _
          · rw [List.length_nil, Nat.zero_add]
            exact Nat.lt_of_not_le hlt
      | cons d x =>
          rw [List.cons_append, List.cons_append, List.cons.injEq] at h
          have hseam := (ih h.2).cons hnone
          rwa [Nat.add_right_comm] at hseam

end

/-- When no value of the page holds anything of the shape of a placeholder, a second pass changes
nothing just when no placeholder of the page has formed across an end of an inserted value. -/
theorem expand_again_iff {v : PageValues} (hv : ∀ p ∈ v.named, ¬HoldsPlaceholder p.2) (t : Text) :
    expand (expand t v) v = expand t v ↔
      ∀ p ∈ v.named, ∀ x y, expand t v = x ++ placeholder p.1.toList ++ y →
        ¬HasSeamBetween v t x.length (x.length + span p.1) := by
  rw [expand_eq_self_iff hv]
  constructor
  · intro h p hp x y hstands _
    exact h p hp ⟨x, y, hstands.symm⟩
  · rintro h p hp ⟨x, y, hstands⟩
    exact h p hp x y hstands.symm (hasSeamBetween_of_expand_eq hv hp hstands.symm)

/-- A value that is the name of another one, in stray braces, makes a placeholder. -/
theorem expand_again_nested :
    ¬∀ (v : PageValues) (t : Text), (∀ p ∈ v.named, ¬HoldsPlaceholder p.2) →
      expand (expand t v) v = expand t v := by
  intro h
  let v : PageValues :=
    { title := Text.lit "url", url := ['u'], domain := [], path := [], selectedText := [] }
  have hnone : ∀ p ∈ v.named, '\x7b' ∉ p.2 := by decide
  have hfree : ∀ p ∈ v.named, ¬HoldsPlaceholder p.2 :=
    fun p hp => not_holdsPlaceholder (hnone p hp)
  have hagain := h v (Text.lit "\x7b\x7btitle\x7d\x7d") hfree
  revert hagain
  decide

/-- Braces around a value make no placeholder when the value is no name of another one. -/
theorem expand_again_braces :
    let v : PageValues :=
      { title := Text.lit "Url\x7d", url := ['u'], domain := [], path := [], selectedText := [] }
    let t := Text.lit "\x7b\x7btitle\x7d \x7burl\x7d"
    (∀ p ∈ v.named, ¬HoldsPlaceholder p.2) ∧ expand (expand t v) v = expand t v := by
  intro v t
  have hnone : ∀ p ∈ v.named, '\x7b' ∉ p.2 := by decide
  have hfree : ∀ p ∈ v.named, ¬HoldsPlaceholder p.2 :=
    fun p hp => not_holdsPlaceholder (hnone p hp)
  refine ⟨hfree, (expand_again_iff hfree t).mpr ?_⟩
  have hformed : ∀ p ∈ v.named, ¬placeholder p.1.toList <:+: expand t v := by decide
  intro p hp x y hstands _
  exact hformed p hp ⟨x, y, hstands.symm⟩

end CopyFormat.Template
