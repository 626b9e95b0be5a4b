import Mathlib.Data.List.Count
import Mathlib.Data.List.Infix
import CopyFormat.Text.Basic

/-!
Rewriting from left to right. A text into whose holes a needle has been put can be rewritten at the
needle; this fills the holes just when the needle stands nowhere else.
-/

namespace CopyFormat.Text

section

variable {rule : Text → Option (Text × Nat)}

theorem rewrite_skip (k : Nat) (t : Text) : rewrite rule k t = rewrite rule 0 (t.drop k) := by
  induction k generalizing t with
  | zero => rfl
  | succ k ih =>
      cases t with
      | nil => rfl
      | cons c r => exact ih r

theorem rewrite_of_none {c : Char} {r : Text} (h : rule (c :: r) = none) :
    rewrite rule 0 (c :: r) = c :: rewrite rule 0 r := by
  rw [rewrite, h]

theorem rewrite_of_some {lead r piece : Text} (hlead : lead ≠ [])
    (h : rule (lead ++ r) = some (piece, lead.length)) :
    rewrite rule 0 (lead ++ r) = piece ++ rewrite rule 0 r := by
  obtain ⟨c, lead, rfl⟩ := List.exists_cons_of_ne_nil hlead
  rw [List.cons_append] at h ⊢
  rw [rewrite, h]
  dsimp only
  rw [rewrite_skip, List.length_cons, Nat.add_sub_cancel, List.drop_left]

end

/-- At how many places of a text a needle stands. -/
def occurrences (needle t : Text) : Nat := t.tails.countP fun r => needle.isPrefixOf r

variable {c : Char} {rest : Text}

theorem occurrences_nil : occurrences (c :: rest) [] = 0 := rfl

theorem occurrences_cons_of_lead {d : Char} {r : Text} (h : c :: rest <+: d :: r) :
    occurrences (c :: rest) (d :: r) = occurrences (c :: rest) r + 1 := by
  rw [occurrences, List.tails_cons, List.countP_cons_of_pos (List.isPrefixOf_iff_prefix.mpr h)]
  rfl

theorem occurrences_cons_of_not_lead {d : Char} {r : Text} (h : ¬c :: rest <+: d :: r) :
    occurrences (c :: rest) (d :: r) = occurrences (c :: rest) r := by
  rw [occurrences, List.tails_cons,
    List.countP_cons_of_neg (by rwa [List.isPrefixOf_iff_prefix])]
  rfl

theorem occurrences_append_of_not_mem {u : Text} (hu : c ∉ u) (r : Text) :
    occurrences (c :: rest) (u ++ r) = occurrences (c :: rest) r := by
  induction u with
  | nil => rfl
  | cons d u ih =>
      rw [List.mem_cons, not_or] at hu
      have hlead : ¬c :: rest <+: d :: (u ++ r) := by
        rw [List.cons_prefix_cons, not_and]
        intro hcd
        exact absurd hcd hu.1
      rw [List.cons_append, occurrences_cons_of_not_lead hlead, ih hu.2]

theorem occurrences_needle_append (hrest : c ∉ rest) (r : Text) :
    occurrences (c :: rest) (c :: rest ++ r) = occurrences (c :: rest) r + 1 := by
  have hlead : c :: rest <+: c :: (rest ++ r) := List.prefix_append (c :: rest) r
  rw [List.cons_append, occurrences_cons_of_lead hlead, occurrences_append_of_not_mem hrest]

theorem replaceAll_nil (old new : Text) : replaceAll [] old new = [] := rfl

theorem replaceAll_needle_append (r new : Text) :
    replaceAll (c :: rest ++ r) (c :: rest) new = new ++ replaceAll r (c :: rest) new := by
  apply rewrite_of_some (List.cons_ne_nil c rest)
  rw [if_pos (by simp)]

theorem replaceAll_cons_of_not_lead {d : Char} {r : Text} (h : ¬c :: rest <+: d :: r) (new : Text) :
    replaceAll (d :: r) (c :: rest) new = d :: replaceAll r (c :: rest) new := by
  apply rewrite_of_none
  rw [if_neg (by simpa [← List.isPrefixOf_iff_prefix] using h)]

theorem replaceAll_char (t : Text) (c : Char) (new : Text) :
    replaceAll t [c] new = t.flatMap fun d => if d = c then new else [d] := by
  induction t with
  | nil => rfl
  | cons d r ih =>
      rw [List.flatMap_cons, ← ih]
      by_cases hd : d = c
      · rw [hd, if_pos rfl]
        exact replaceAll_needle_append r new
      · have hlead : ¬[c] <+: d :: r := by
          rw [List.cons_prefix_cons, not_and]
          intro hcd
          exact absurd hcd.symm hd
        rw [if_neg hd, replaceAll_cons_of_not_lead hlead]
        rfl

theorem replaceAll_of_cut? {t before behind : Text}
    (h : cut? (c :: rest) t = some (before, behind)) (new : Text) :
    replaceAll t (c :: rest) new = before ++ new ++ replaceAll behind (c :: rest) new := by
  induction t generalizing before with
  | nil => cases h
  | cons d r ih =>
      rw [cut?] at h
      split at h
      · rename_i hlead
        cases h
        obtain ⟨s, hs⟩ := List.isPrefixOf_iff_prefix.mp hlead
        rw [← hs, List.drop_left, replaceAll_needle_append, List.nil_append]
      · rename_i hlead
        obtain ⟨⟨before', behind'⟩, hcut, hpair⟩ := Option.map_eq_some_iff.mp h
        cases hpair
        rw [replaceAll_cons_of_not_lead (by rwa [← List.isPrefixOf_iff_prefix]), ih hcut]
        rfl

theorem replaceAll_of_cut?_none {t : Text} (h : cut? (c :: rest) t = none) (new : Text) :
    replaceAll t (c :: rest) new = t := by
  induction t with
  | nil => rfl
  | cons d r ih =>
      rw [cut?] at h
      split at h
      · cases h
      · rename_i hlead
        rw [replaceAll_cons_of_not_lead (by rwa [← List.isPrefixOf_iff_prefix]),
          ih (Option.map_eq_none_iff.mp h)]

theorem needle_induction (c : Char) (rest : Text) {P : Text → Prop} (nil : P [])
    (needle : ∀ r, P r → P (c :: rest ++ r))
    (single : ∀ d r, ¬c :: rest <+: d :: r → P r → P (d :: r)) (t : Text) : P t := by
  induction hn : t.length using Nat.strong_induction_on generalizing t with
  | _ n ih =>
      cases t with
      | nil => exact nil
      | cons d r =>
          by_cases hlead : c :: rest <+: d :: r
          · obtain ⟨r', hr'⟩ := hlead
            rw [← hr'] at hn ⊢
            refine needle r' (ih _ ?_ r' rfl)
            rw [← hn, List.length_append, List.length_cons]
            omega
          · exact single d r hlead (ih _ (by rw [← hn]; exact Nat.lt_succ_self _) r rfl)

theorem replaceAll_self (t : Text) : replaceAll t (c :: rest) (c :: rest) = t := by
  induction t using needle_induction c rest with
  | nil => rfl
  | needle r ih => rw [replaceAll_needle_append, ih]
  | single d r hlead ih => rw [replaceAll_cons_of_not_lead hlead, ih]

theorem length_replaceAll (hrest : c ∉ rest) (t new : Text) :
    (replaceAll t (c :: rest) new).length + occurrences (c :: rest) t * (rest.length + 1) =
      t.length + occurrences (c :: rest) t * new.length := by
  induction t using needle_induction c rest with
  | nil => simp [replaceAll_nil, occurrences_nil]
  | needle r ih =>
      rw [replaceAll_needle_append, occurrences_needle_append hrest, List.length_append,
        List.length_append, List.length_cons, Nat.succ_mul, Nat.succ_mul]
      omega
  | single d r hlead ih =>
      rw [replaceAll_cons_of_not_lead hlead, occurrences_cons_of_not_lead hlead, List.length_cons,
        List.length_cons]
      omega

/-- A text with holes, and a filling in each of them. -/
def fillHoles (filling : Text) (w : List (Option Char)) : Text :=
  w.flatMap fun c? => c?.elim filling fun c => [c]

theorem fillHoles_hole (filling : Text) (w : List (Option Char)) :
    fillHoles filling (none :: w) = filling ++ fillHoles filling w := rfl

theorem fillHoles_char (filling : Text) (d : Char) (w : List (Option Char)) :
    fillHoles filling (some d :: w) = d :: fillHoles filling w := rfl

theorem fillHoles_chars (filling u : Text) (w : List (Option Char)) :
    fillHoles filling (u.map some ++ w) = u ++ fillHoles filling w := by
  induction u with
  | nil => rfl
  | cons d u ih => rw [List.map_cons, List.cons_append, fillHoles_char, ih, List.cons_append]

theorem length_fillHoles (filling filling' : Text) (w : List (Option Char)) :
    (fillHoles filling w).length + w.count none * filling'.length =
      (fillHoles filling' w).length + w.count none * filling.length := by
  induction w with
  | nil => simp [fillHoles]
  | cons d? w ih =>
      cases d? with
      | none =>
          rw [fillHoles_hole, fillHoles_hole, List.count_cons_self, List.length_append,
            List.length_append, Nat.succ_mul, Nat.succ_mul]
          omega
      | some d =>
          rw [fillHoles_char, fillHoles_char, List.count_cons_of_ne (by simp), List.length_cons,
            List.length_cons]
          omega

theorem count_le_occurrences (hrest : c ∉ rest) (w : List (Option Char)) :
    w.count none ≤ occurrences (c :: rest) (fillHoles (c :: rest) w) := by
  induction w with
  | nil => exact Nat.zero_le _
  | cons d? w ih =>
      cases d? with
      | none =>
          rw [fillHoles_hole, occurrences_needle_append hrest, List.count_cons_self]
          omega
      | some d =>
          rw [fillHoles_char, List.count_cons_of_ne (by simp)]
          by_cases hlead : c :: rest <+: d :: fillHoles (c :: rest) w
          · rw [occurrences_cons_of_lead hlead]
            omega
          · rwa [occurrences_cons_of_not_lead hlead]

theorem exists_of_prefix_fillHoles {lead : Text} {w : List (Option Char)} (hlead : c ∉ lead)
    (h : lead <+: fillHoles (c :: rest) w) : ∃ w', w = lead.map some ++ w' := by
  induction lead generalizing w with
  | nil => exact ⟨w, rfl⟩
  | cons d lead ih =>
      rw [List.mem_cons, not_or] at hlead
      cases w with
      | nil => simp [fillHoles] at h
      | cons d? w =>
          cases d? with
          | none =>
              rw [fillHoles_hole, List.cons_append, List.cons_prefix_cons] at h
              exact absurd h.1.symm hlead.1
          | some e =>
              rw [fillHoles_char, List.cons_prefix_cons] at h
              obtain ⟨rfl, h⟩ := h
              obtain ⟨w', rfl⟩ := ih hlead.2 h
              exact ⟨w', rfl⟩

/-- Fillings that are put for a needle which also stands where no hole is make a text of another
length, unless they are as long as the needle. -/
theorem length_eq_of_append_eq {new u : Text} {w : List (Option Char)} (hrest : c ∉ rest)
    (h : new ++ replaceAll (fillHoles (c :: rest) w) (c :: rest) new = u ++ fillHoles new w)
    (hu : u.length = rest.length + 1) : new.length = u.length := by
  obtain ⟨k, hk⟩ := Nat.exists_eq_add_of_le (count_le_occurrences hrest w)
  have hreplaced := length_replaceAll hrest (fillHoles (c :: rest) w) new
  have hfilled := length_fillHoles new (c :: rest) w
  have hlength := congrArg List.length h
  rw [List.length_append, List.length_append] at hlength
  rw [hk, Nat.add_mul, Nat.add_mul] at hreplaced
  rw [List.length_cons] at hfilled
  have hmul : (k + 1) * new.length = (k + 1) * u.length := by
    rw [Nat.succ_mul, Nat.succ_mul, hu]
    rw [hu] at hlength
    omega
  exact Nat.eq_of_mul_eq_mul_left (Nat.succ_pos k) hmul

/-- Replacing the needles fills the holes when the needle stands nowhere else, and otherwise only
when nothing is changed. -/
theorem replaceAll_fillHoles_iff (hrest : c ∉ rest) (new : Text) (w : List (Option Char)) :
    replaceAll (fillHoles (c :: rest) w) (c :: rest) new = fillHoles new w ↔
      occurrences (c :: rest) (fillHoles (c :: rest) w) = w.count none ∨ new = c :: rest := by
  induction w with
  | nil => simp [fillHoles, replaceAll_nil, occurrences_nil]
  | cons d? w ih =>
      cases d? with
      | none =>
          rw [fillHoles_hole, fillHoles_hole, replaceAll_needle_append,
            occurrences_needle_append hrest, List.append_cancel_left_eq, List.count_cons_self,
            Nat.add_right_cancel_iff]
          exact ih
      | some d =>
          rw [fillHoles_char, fillHoles_char, List.count_cons_of_ne (by simp)]
          by_cases hlead : c :: rest <+: d :: fillHoles (c :: rest) w
          · obtain ⟨rfl, hbehind⟩ := List.cons_prefix_cons.mp hlead
            obtain ⟨w', rfl⟩ := exists_of_prefix_fillHoles hrest hbehind
            have hcount := count_le_occurrences hrest w'
            have hneedle : (rest.map some).count none = 0 :=
              List.count_eq_zero.mpr (by simp)
            rw [fillHoles_chars, fillHoles_chars, List.count_append, hneedle, Nat.zero_add,
              ← List.cons_append, ← List.cons_append, occurrences_needle_append hrest,
              replaceAll_needle_append]
            constructor
            · intro h
              have hlength := length_eq_of_append_eq hrest h rfl
              exact .inr (List.append_inj_left h hlength)
            · rintro (h | rfl)
              · omega
              · rw [replaceAll_self]
          · rw [replaceAll_cons_of_not_lead hlead, occurrences_cons_of_not_lead hlead,
              List.cons_inj_right]
            exact ih

end CopyFormat.Text
