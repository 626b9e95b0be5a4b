import CopyFormat.Text.Basic

namespace CopyFormat.Text

theorem cut?_eq_some {needle t before behind : Text} (h : cut? needle t = some (before, behind)) :
    t = before ++ needle ++ behind := by
  induction t generalizing before behind with
  | nil =>
      rw [cut?] at h
      split at h
      · rename_i hempty
        cases h
        rw [List.isEmpty_iff.mp hempty]
        rfl
      · cases h
  | cons c r ih =>
      rw [cut?] at h
      split at h
      · rename_i hlead
        cases h
        rw [List.isPrefixOf_iff_prefix] at hlead
        obtain ⟨rest, hrest⟩ := hlead
        rw [← hrest, List.drop_left, List.nil_append]
      · obtain ⟨⟨before', behind'⟩, hcut, hpair⟩ := Option.map_eq_some_iff.mp h
        cases hpair
        rw [ih hcut]
        rfl

theorem occursIn_iff {needle t : Text} : occursIn needle t = true ↔ needle <:+: t := by
  induction t with
  | nil => cases needle <;> simp [occursIn, cut?]
  | cons c r ih =>
      rw [List.infix_cons_iff, ← ih, ← List.isPrefixOf_iff_prefix, occursIn, cut?]
      split
      · rename_i hlead
        simp [hlead]
      · rename_i hlead
        simp [hlead, occursIn]

theorem cut?_eq_none_iff {needle t : Text} : cut? needle t = none ↔ ¬needle <:+: t := by
  rw [← occursIn_iff, occursIn]
  cases cut? needle t <;> simp

theorem cut?_needle_append (needle t : Text) : cut? needle (needle ++ t) = some ([], t) := by
  cases h : needle ++ t with
  | nil =>
      obtain ⟨rfl, rfl⟩ := List.append_eq_nil_iff.mp h
      rfl
  | cons c r =>
      rw [cut?, ← h, if_pos (by simp), List.drop_left]

theorem cut?_of_first {needle before behind : Text}
    (hfirst : ∀ b s, before ++ needle ++ behind = b ++ needle ++ s → before.length ≤ b.length) :
    cut? needle (before ++ needle ++ behind) = some (before, behind) := by
  induction before with
  | nil => exact cut?_needle_append needle behind
  | cons c before ih =>
      have hlead : ¬needle.isPrefixOf (c :: (before ++ needle ++ behind)) = true := by
        rw [List.isPrefixOf_iff_prefix]
        rintro ⟨s, hs⟩
        simpa using hfirst [] s hs.symm
      have hrest : cut? needle (before ++ needle ++ behind) = some (before, behind) := by
        apply ih
        intro b s h
        simpa using hfirst (c :: b) s (congrArg (c :: ·) h)
      rw [List.cons_append, List.cons_append, cut?, if_neg hlead, hrest]
      rfl

@[simp] theorem after?_append (lead t : Text) : after? lead (lead ++ t) = some t := by
  induction lead with
  | nil => rfl
  | cons c lead ih => rw [List.cons_append, after?, if_pos rfl, ih]

theorem after?_eq_some {lead t r : Text} (h : after? lead t = some r) : t = lead ++ r := by
  induction lead generalizing t with
  | nil =>
      cases h
      rfl
  | cons c lead ih =>
      cases t with
      | nil => cases h
      | cons d t =>
          rw [after?] at h
          split at h
          · rename_i hcd
            rw [hcd, ih h]
            rfl
          · cases h

theorem after?_eq_some_iff {lead t r : Text} : after? lead t = some r ↔ t = lead ++ r := by
  constructor
  · exact after?_eq_some
  · rintro rfl
    exact after?_append lead r

theorem after?_append_left (a b t : Text) : after? (a ++ b) t = (after? a t).bind (after? b) := by
  apply Option.ext
  intro r
  simp [Option.bind_eq_some_iff, after?_eq_some_iff]

section

variable {c : Char} {u : Text}

theorem takeWhile_ne_append (h : c ∉ u) (v : Text) :
    (u ++ c :: v).takeWhile (· ≠ c) = u := by
  induction u with
  | nil => simp
  | cons d u ih =>
      rw [List.mem_cons, not_or] at h
      rw [List.cons_append, List.takeWhile_cons_of_pos (by simpa using Ne.symm h.1), ih h.2]

theorem dropWhile_ne_append (h : c ∉ u) (v : Text) :
    (u ++ c :: v).dropWhile (· ≠ c) = c :: v := by
  induction u with
  | nil => simp
  | cons d u ih =>
      rw [List.mem_cons, not_or] at h
      rw [List.cons_append, List.dropWhile_cons_of_pos (by simpa using Ne.symm h.1), ih h.2]

theorem cut?_mark_append (h : c ∉ u) (v : Text) : cut? [c] (u ++ c :: v) = some (u, v) := by
  induction u with
  | nil => exact cut?_needle_append [c] v
  | cons d u ih =>
      rw [List.mem_cons, not_or] at h
      rw [List.cons_append, cut?, ih h.2, if_neg (by simpa using h.1)]
      rfl

theorem cut?_mark_eq_none_iff {t : Text} : cut? [c] t = none ↔ c ∉ t := by
  constructor
  · intro h hmem
    obtain ⟨u, v, rfl, hu⟩ := List.eq_append_cons_of_mem hmem
    rw [cut?_mark_append hu] at h
    cases h
  · intro h
    rw [cut?_eq_none_iff]
    exact fun hstands => h (hstands.subset List.mem_cons_self)

theorem cut?_mark_eq_some_iff {t v : Text} : cut? [c] t = some (u, v) ↔ t = u ++ c :: v ∧ c ∉ u := by
  constructor
  · intro h
    have hmem : c ∈ t := by
      rw [cut?_eq_some h]
      simp
    obtain ⟨u', v', rfl, hu'⟩ := List.eq_append_cons_of_mem hmem
    rw [cut?_mark_append hu', Option.some.injEq, Prod.mk.injEq] at h
    obtain ⟨rfl, rfl⟩ := h
    exact ⟨rfl, hu'⟩
  · rintro ⟨rfl, hu⟩
    exact cut?_mark_append hu v

theorem exists_of_takeWhile_lt {r : Text} (h : (r.takeWhile (· ≠ c)).length < r.length) :
    ∃ u v, r = u ++ c :: v ∧ c ∉ u := by
  induction r with
  | nil => simp at h
  | cons d r ih =>
      by_cases hd : d = c
      · exact ⟨[], r, by rw [hd]; rfl, by simp⟩
      · rw [List.takeWhile_cons_of_pos (by simpa using hd)] at h
        obtain ⟨u, v, hr, hu⟩ := ih (Nat.lt_of_succ_lt_succ h)
        refine ⟨d :: u, v, by rw [hr]; rfl, ?_⟩
        rw [List.mem_cons, not_or]
        exact ⟨Ne.symm hd, hu⟩

end

theorem lastCut?_eq_some {needle t before behind : Text} {p : Text → Bool}
    (h : lastCut? needle p t = some (before, behind)) :
    t = before ++ needle ++ behind ∧ p behind = true := by
  induction t generalizing before with
  | nil => cases h
  | cons c r ih =>
      rw [lastCut?] at h
      split at h
      · rename_i before' behind' hcut
        cases h
        obtain ⟨hr, hp⟩ := ih hcut
        exact ⟨by rw [hr]; rfl, hp⟩
      · obtain ⟨behind', hafter, hpair⟩ := Option.map_eq_some_iff.mp h
        cases hpair
        obtain ⟨hafter, hp⟩ := Option.filter_eq_some_iff.mp hafter
        exact ⟨after?_eq_some hafter, hp⟩

theorem lastCut?_of_not_isInfix {needle t : Text} (p : Text → Bool) (h : ¬needle <:+: t) :
    lastCut? needle p t = none := by
  rw [Option.eq_none_iff_forall_ne_some]
  rintro ⟨before, behind⟩ hcut
  obtain ⟨rfl, -⟩ := lastCut?_eq_some hcut
  exact h ⟨before, behind, rfl⟩

theorem lastCut?_of_not_mem {needle t : Text} (p : Text → Bool) {c : Char} (hneedle : c ∈ needle)
    (ht : c ∉ t) : lastCut? needle p t = none :=
  lastCut?_of_not_isInfix p fun h => ht (h.subset hneedle)

theorem lastCut?_append_left {needle t b behind : Text} {p : Text → Bool} (before : Text)
    (h : lastCut? needle p t = some (b, behind)) :
    lastCut? needle p (before ++ t) = some (before ++ b, behind) := by
  induction before with
  | nil => exact h
  | cons d before ih => rw [List.cons_append, lastCut?, ih, List.cons_append]

theorem not_isInfix_of_not_mem {c : Char} {rest t : Text} (h : c ∉ t) : ¬c :: rest <:+: t :=
  fun hstands => h (hstands.subset List.mem_cons_self)

theorem not_isInfix_append {c : Char} {rest u r : Text} (hu : c ∉ u) (h : ¬c :: rest <:+: r) :
    ¬c :: rest <:+: u ++ r := by
  induction u with
  | nil => exact h
  | cons d u ih =>
      rw [List.mem_cons, not_or] at hu
      rw [List.cons_append, List.infix_cons_iff, List.cons_prefix_cons, not_or, not_and]
      exact ⟨fun hcd => absurd hcd hu.1, ih hu.2⟩

/-- An occurrence is the last one when there is none behind it and the first character of the
needle does not come again in the needle. -/
theorem lastCut?_append {c : Char} {behind : Text} {p : Text → Bool} (before rest : Text)
    (hrest : c ∉ rest) (hbehind : ¬c :: rest <:+: behind) (hp : p behind = true) :
    lastCut? (c :: rest) p (before ++ c :: rest ++ behind) = some (before, behind) := by
  have hnone : lastCut? (c :: rest) p (rest ++ behind) = none :=
    lastCut?_of_not_isInfix p (not_isInfix_append hrest hbehind)
  have hafter : after? (c :: rest) (c :: (rest ++ behind)) = some behind :=
    after?_append (c :: rest) behind
  have hcut : lastCut? (c :: rest) p (c :: (rest ++ behind)) = some ([], behind) := by
    rw [lastCut?, hnone, hafter]
    simp [hp]
  rw [List.append_assoc, List.cons_append, lastCut?_append_left before hcut, List.append_nil]

theorem exists_lastCut? {c : Char} {rest t : Text} {p : Text → Bool} (h : c :: rest <:+: t)
    (hp : ∀ behind, c :: rest ++ behind <:+ t → p behind = true) :
    ∃ before behind, lastCut? (c :: rest) p t = some (before, behind) := by
  induction t with
  | nil => simp at h
  | cons d r ih =>
      cases hcut : lastCut? (c :: rest) p r with
      | some parts => exact ⟨_, _, by rw [lastCut?, hcut]⟩
      | none =>
          have hr : ¬(c :: rest) <:+: r := by
            intro hr
            obtain ⟨before, behind, hsome⟩ := ih hr fun behind hb =>
              hp behind (hb.trans (List.suffix_cons d r))
            rw [hcut] at hsome
            cases hsome
          obtain ⟨behind, hbehind⟩ := (List.infix_cons_iff.mp h).resolve_right hr
          have hholds : p behind = true := hp behind ⟨[], hbehind⟩
          refine ⟨[], behind, ?_⟩
          rw [lastCut?, hcut, ← hbehind, after?_append]
          simp [hholds]

end CopyFormat.Text
