import CopyFormat.Proofs.Text.Excerpt
import CopyFormat.Proofs.Text.Rewrite

/-!
Splitting a text at a separator and joining the parts. The separators that are found are the
occurrences that replacing finds, so a join with another text is a replacement.
-/

namespace CopyFormat.Text

variable {c : Char} {rest t : Text}

@[simp] theorem join_nil (sep : Text) : join sep [] = [] := List.intercalate_nil

@[simp] theorem join_singleton (sep part : Text) : join sep [part] = part :=
  List.intercalate_singleton

theorem join_cons {parts : List Text} (hparts : parts ≠ []) (sep part : Text) :
    join sep (part :: parts) = part ++ (sep ++ join sep parts) := by
  rw [join, join, List.intercalate_cons_of_ne_nil hparts, List.append_assoc]

theorem join_cons_cons (sep part part' : Text) (parts : List Text) :
    join sep (part :: part' :: parts) = part ++ (sep ++ join sep (part' :: parts)) :=
  join_cons (List.cons_ne_nil part' parts) sep part

theorem join_modifyHead_cons {parts : List Text} (hparts : parts ≠ []) (sep : Text) (d : Char) :
    join sep (parts.modifyHead (d :: ·)) = d :: join sep parts := by
  obtain ⟨part, parts, rfl⟩ := List.exists_cons_of_ne_nil hparts
  rw [List.modifyHead_cons]
  cases parts with
  | nil => rw [join_singleton, join_singleton]
  | cons part' parts => rw [join_cons_cons, join_cons_cons, List.cons_append]

theorem join_nil_map_singleton (t : Text) : join [] (t.map fun d => [d]) = t := by
  induction t with
  | nil => rfl
  | cons d t ih =>
      cases t with
      | nil => rfl
      | cons e t =>
          rw [List.map_cons, List.map_cons, join_cons_cons]
          exact congrArg (d :: ·) ih

theorem splitFrom_skip (sep : Text) (k : Nat) (t : Text) :
    splitFrom sep k t = splitFrom sep 0 (t.drop k) := by
  induction k generalizing t with
  | zero => rfl
  | succ k ih =>
      cases t with
      | nil => rfl
      | cons d r => exact ih r

theorem splitOn_nil (sep : Text) : splitOn [] sep = [[]] := rfl

theorem splitOn_needle_append (r : Text) :
    splitOn (c :: rest ++ r) (c :: rest) = [] :: splitOn r (c :: rest) := by
  rw [splitOn, List.cons_append, splitFrom, if_pos (by simp), splitFrom_skip, List.length_cons,
    Nat.add_sub_cancel, List.drop_left]
  rfl

theorem splitOn_ne_nil (t : Text) : splitOn t (c :: rest) ≠ [] := by
  induction t using needle_induction c rest with
  | nil => exact List.cons_ne_nil _ _
  | needle r _ =>
      rw [splitOn_needle_append]
      exact List.cons_ne_nil _ _
  | single d r _ _ =>
      rw [splitOn, splitFrom]
      split
      · exact List.cons_ne_nil _ _
      · split
        · exact List.cons_ne_nil _ _
        · exact List.cons_ne_nil _ _

theorem splitOn_cons_of_not_lead {d : Char} {r : Text} (h : ¬c :: rest <+: d :: r) :
    splitOn (d :: r) (c :: rest) = (splitOn r (c :: rest)).modifyHead (d :: ·) := by
  obtain ⟨part, parts, hparts⟩ := List.exists_cons_of_ne_nil (splitOn_ne_nil (c := c) r)
  rw [splitOn] at hparts
  rw [splitOn, splitFrom, if_neg (by rwa [List.isPrefixOf_iff_prefix]), splitOn, hparts]
  rfl

theorem join_splitOn_eq_replaceAll (t new : Text) :
    join new (splitOn t (c :: rest)) = replaceAll t (c :: rest) new := by
  induction t using needle_induction c rest with
  | nil => rw [splitOn_nil, join_singleton, replaceAll_nil]
  | needle r ih =>
      rw [splitOn_needle_append, join_cons (splitOn_ne_nil r), ih, replaceAll_needle_append,
        List.nil_append]
  | single d r hlead ih =>
      rw [splitOn_cons_of_not_lead hlead, join_modifyHead_cons (splitOn_ne_nil r), ih,
        replaceAll_cons_of_not_lead hlead]

theorem join_splitOn (t : Text) : join (c :: rest) (splitOn t (c :: rest)) = t := by
  rw [join_splitOn_eq_replaceAll, replaceAll_self]

theorem splitOn_char (t : Text) (c : Char) : splitOn t [c] = stretches (· == c) t := by
  induction t with
  | nil => rfl
  | cons d r ih =>
      rw [splitOn] at ih
      rw [splitOn, splitFrom, stretches, List.length_singleton, Nat.sub_self, ih]
      by_cases hd : d = c
      · simp [hd]
      · cases stretches (· == c) r <;> simp [hd, Ne.symm hd]

theorem splitOn_join {parts : List Text} (hne : parts ≠ []) (h : ∀ part ∈ parts, c ∉ part) :
    splitOn (join [c] parts) [c] = parts := by
  have hpart : ∀ {part : Text}, c ∉ part → stretches (· == c) part = [part] := by
    intro part hc
    refine stretches_of_none fun d hd => ?_
    rw [beq_eq_false_iff_ne]
    rintro rfl
    exact hc hd
  rw [splitOn_char]
  induction parts with
  | nil => exact absurd rfl hne
  | cons part parts ih =>
      obtain ⟨hhead, htail⟩ := List.forall_mem_cons.mp h
      by_cases hparts : parts = []
      · rw [hparts, join_singleton, hpart hhead]
      · rw [join_cons hparts, List.singleton_append, stretches_append_cons (by simp),
          hpart hhead, ih hparts htail, List.singleton_append]

end CopyFormat.Text
