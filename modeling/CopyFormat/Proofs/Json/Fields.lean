import Mathlib
import CopyFormat.Json.Value

/-!
The order of keys, and the fields of objects that are kept in it.
-/

namespace CopyFormat

namespace Text

theorem order_self (t : Text) : order t t = .eq := by
  induction t with
  | nil => rfl
  | cons c t ih => rw [order, if_pos rfl, ih]

theorem order_eq_iff {s t : Text} : order s t = .eq ↔ s = t := by
  refine ⟨fun h => ?_, fun h => h ▸ order_self s⟩
  induction s generalizing t with
  | nil =>
      cases t with
      | nil => rfl
      | cons d t => cases h
  | cons c s ih =>
      cases t with
      | nil => cases h
      | cons d t =>
          rw [order] at h
          split at h
          · rename_i hcd
            rw [hcd, ih h]
          · split at h <;> cases h

theorem order_swap (s t : Text) : order t s = (order s t).swap := by
  induction s generalizing t with
  | nil => cases t <;> rfl
  | cons c s ih =>
      cases t with
      | nil => rfl
      | cons d t =>
          rw [order, order]
          by_cases hcd : c = d
          · rw [if_pos hcd, if_pos hcd.symm, ih]
          · have hne : c.toNat ≠ d.toNat := fun h => hcd (Char.toNat_inj.mp h)
            rw [if_neg hcd, if_neg (Ne.symm hcd)]
            rcases Nat.lt_or_gt_of_ne hne with hlt | hgt
            · rw [if_pos hlt, if_neg (by omega)]
              rfl
            · rw [if_pos hgt, if_neg (by omega)]
              rfl

theorem order_trans {s t u : Text} (hst : order s t = .lt) (htu : order t u = .lt) :
    order s u = .lt := by
  induction s generalizing t u with
  | nil =>
      cases u with
      | nil => cases t <;> cases htu
      | cons e u => rfl
  | cons c s ih =>
      cases t with
      | nil => cases hst
      | cons d t =>
          cases u with
          | nil => cases htu
          | cons e u =>
              rw [order] at hst htu ⊢
              by_cases hcd : c = d
              · subst hcd
                rw [if_pos rfl] at hst
                split at htu
                · rename_i hce
                  rw [if_pos hce]
                  exact ih hst htu
                · rename_i hce
                  rwa [if_neg hce]
              · rw [if_neg hcd] at hst
                split at hst
                · rename_i hlt
                  split at htu
                  · rename_i hde
                    subst hde
                    rw [if_neg hcd, if_pos hlt]
                  · split at htu
                    · rename_i hlt'
                      have hce : c ≠ e := by
                        rintro rfl
                        omega
                      rw [if_neg hce, if_pos (by omega)]
                    · cases htu
                · cases hst

end Text

namespace Json

variable {key : Text} {value : Json} {fields : Fields}

/-- Whether fields are in the order of their keys, each key once. -/
def Sorted (fields : Fields) : Prop := fields.Pairwise fun p q => Text.order p.1 q.1 = .lt

theorem Sorted.of_map_fst {fields' : Fields} (h : Sorted fields)
    (hkeys : fields'.map Prod.fst = fields.map Prod.fst) : Sorted fields' := by
  have hmap : (fields.map Prod.fst).Pairwise fun k l => Text.order k l = .lt :=
    List.pairwise_map.mpr h
  rw [← hkeys] at hmap
  exact List.pairwise_map.mp hmap

theorem setField_subset {p : Text × Json} (h : p ∈ setField key value fields) :
    p = (key, value) ∨ p ∈ fields := by
  induction fields with
  | nil => exact .inl (List.mem_singleton.mp h)
  | cons f fields ih =>
      obtain ⟨k, v⟩ := f
      rw [setField] at h
      split at h
      · exact List.mem_cons.mp h
      · rcases List.mem_cons.mp h with rfl | h
        · exact .inl rfl
        · exact .inr (List.mem_cons_of_mem _ h)
      · rcases List.mem_cons.mp h with rfl | h
        · exact .inr List.mem_cons_self
        · exact (ih h).imp_right (List.mem_cons_of_mem _)

theorem Sorted.setField (h : Sorted fields) (key : Text) (value : Json) :
    Sorted (setField key value fields) := by
  induction fields with
  | nil => exact List.pairwise_singleton ..
  | cons f fields ih =>
      obtain ⟨k, v⟩ := f
      obtain ⟨hfirst, hrest⟩ := List.pairwise_cons.mp h
      rw [Json.setField]
      split
      · rename_i hlt
        refine List.pairwise_cons.mpr ⟨?_, h⟩
        intro q hq
        rcases List.mem_cons.mp hq with rfl | hq
        · exact hlt
        · exact Text.order_trans hlt (hfirst q hq)
      · rename_i heq
        rw [Text.order_eq_iff.mp heq]
        exact List.pairwise_cons.mpr ⟨hfirst, hrest⟩
      · rename_i hgt
        refine List.pairwise_cons.mpr ⟨?_, ih hrest⟩
        intro q hq
        rcases setField_subset hq with rfl | hq
        · rw [Text.order_swap, hgt]
          rfl
        · exact hfirst q hq

theorem field?_cons (key k : Text) (v : Json) (fields : Fields) :
    field? key ((k, v) :: fields) = if k = key then some v else field? key fields := by
  rw [field?, List.lookup_cons]
  by_cases hk : k = key
  · rw [if_pos hk, hk, beq_self_eq_true]
  · have hne : (key == k) = false := beq_eq_false_iff_ne.mpr (Ne.symm hk)
    rw [if_neg hk, hne, field?]

theorem mem_of_field? (h : field? key fields = some value) : (key, value) ∈ fields := by
  obtain ⟨before, after, rfl, -⟩ := List.lookup_eq_some_iff.mp h
  exact List.mem_append_right _ List.mem_cons_self

theorem field?_setField_self (key : Text) (value : Json) (fields : Fields) :
    field? key (setField key value fields) = some value := by
  induction fields with
  | nil => rw [setField, field?_cons, if_pos rfl]
  | cons f fields ih =>
      obtain ⟨k, v⟩ := f
      rw [setField]
      split
      · rw [field?_cons, if_pos rfl]
      · rw [field?_cons, if_pos rfl]
      · rename_i hgt
        have hne : k ≠ key := by
          rintro rfl
          rw [Text.order_self] at hgt
          cases hgt
        rw [field?_cons, if_neg hne, ih]

theorem field?_setField_of_ne {k : Text} (h : k ≠ key) (value : Json) (fields : Fields) :
    field? key (setField k value fields) = field? key fields := by
  induction fields with
  | nil => rw [setField, field?_cons, if_neg h]
  | cons f fields ih =>
      obtain ⟨l, v⟩ := f
      rw [setField]
      split
      · rw [field?_cons, if_neg h]
      · rename_i heq
        rw [← Text.order_eq_iff.mp heq, field?_cons, field?_cons, if_neg h, if_neg h]
      · rw [field?_cons, field?_cons, ih]

theorem Sorted.field?_eq_none {k : Text} {v : Json} (h : Sorted ((k, v) :: fields)) :
    field? k fields = none := by
  rw [field?, List.lookup_eq_none_iff]
  intro p hp
  have hlt := (List.pairwise_cons.mp h).1 p hp
  rw [bne_iff_ne]
  rintro rfl
  rw [Text.order_self] at hlt
  cases hlt

theorem field?_overlay {newer : Fields} (hnewer : Sorted newer) (key : Text) (base : Fields) :
    field? key (overlay base newer) = (field? key newer).or (field? key base) := by
  induction newer generalizing base with
  | nil => rfl
  | cons f newer ih =>
      obtain ⟨k, v⟩ := f
      have hoverlay : overlay base ((k, v) :: newer) = overlay (setField k v base) newer := rfl
      rw [hoverlay, ih (List.pairwise_cons.mp hnewer).2, field?_cons]
      by_cases hk : k = key
      · rw [if_pos hk, ← hk, hnewer.field?_eq_none, field?_setField_self]
        rfl
      · rw [if_neg hk, field?_setField_of_ne hk]

theorem setField_concat (h : ∀ p ∈ fields, Text.order p.1 key = .lt) :
    setField key value fields = fields ++ [(key, value)] := by
  induction fields with
  | nil => rfl
  | cons f fields ih =>
      obtain ⟨k, v⟩ := f
      have hgt : Text.order key k = .gt := by
        rw [Text.order_swap, h (k, v) List.mem_cons_self]
        rfl
      rw [setField, hgt]
      exact congrArg _ (ih fun p hp => h p (List.mem_cons_of_mem _ hp))

end Json

end CopyFormat
