import CopyFormat.Proofs.Preset.Toggle

/-!
Settings in step with the presets. In every registry that comes of the usual settings the lists of
the settings name presets that there are, and the stored formats are the custom presets. What a
format that is added or removed does to the presets that are shown follows from that.
-/

namespace CopyFormat.Registry

variable {r r' : Registry} {id : Text} {f : CustomFormat}

/-- The preset that an id in the order stands for, if it is shown. -/
def offered (r : Registry) (id : Text) : Option Preset :=
  if r.isEnabled id then r.get? id else none

theorem active_eq_filterMap (r : Registry) :
    r.active = r.settings.presetOrder.filterMap r.offered :=
  List.filterMap_filter

theorem offered_congr (henabled : r'.isEnabled id = r.isEnabled id)
    (hget : r'.get? id = r.get? id) : r'.offered id = r.offered id := by
  rw [offered, offered, henabled, hget]

theorem offered_extend_of_ne (h : id ≠ f.id) : (r.extend f).offered id = r.offered id := by
  apply offered_congr
  · rw [Bool.eq_iff_iff, isEnabled_iff_mem, isEnabled_iff_mem, extend, List.mem_append,
      List.mem_singleton, or_iff_left h]
  · have hlast : [Preset.custom f].find? (fun p => p.id = id) = none := by
      simp [Preset.id, h.symm]
    rw [get?, get?, extend, List.find?_append, hlast, Option.or_none]

theorem get?_extend_self (h : f.id ∉ r.ids) : (r.extend f).get? f.id = some (.custom f) := by
  have hnone : r.presets.find? (fun p => p.id = f.id) = none := (get?_eq_none_iff r f.id).mpr h
  rw [get?, extend, List.find?_append, hnone, Option.none_or]
  simp [Preset.id]

theorem offered_extend_self (h : f.id ∉ r.ids) : (r.extend f).offered f.id = some (.custom f) := by
  have henabled : (r.extend f).isEnabled f.id = true :=
    isEnabled_iff_mem.mpr (List.mem_append_right _ List.mem_cons_self)
  rw [offered, if_pos henabled, get?_extend_self h]

theorem active_extend (horder : ∀ id ∈ r.settings.presetOrder, id ∈ r.ids) (hf : f.id ∉ r.ids) :
    (r.extend f).active = r.active ++ [.custom f] := by
  have hold : r.settings.presetOrder.filterMap (r.extend f).offered = r.active := by
    rw [active_eq_filterMap]
    refine List.filterMap_congr fun id hid => offered_extend_of_ne ?_
    rintro rfl
    exact hf (horder _ hid)
  have hnew : [f.id].filterMap (r.extend f).offered = [.custom f] := by
    rw [List.filterMap_cons_some (offered_extend_self hf), List.filterMap_nil]
  calc
    (r.extend f).active = (r.settings.presetOrder ++ [f.id]).filterMap (r.extend f).offered :=
      active_eq_filterMap _
    _ = r.active ++ [.custom f] := by rw [List.filterMap_append, hold, hnew]

theorem find?_eraseP_of_ne {k : Text} (h : k ≠ id) (ps : List Preset) :
    (ps.eraseP fun p => p.id = id).find? (fun p => p.id = k) = ps.find? fun p => p.id = k := by
  induction ps with
  | nil => rfl
  | cons p ps ih =>
      by_cases hp : p.id = id
      · rw [List.eraseP_cons_of_pos (by simpa using hp),
          List.find?_cons_of_neg (by simpa [hp] using h.symm)]
      · rw [List.eraseP_cons_of_neg (by simpa using hp), List.find?_cons, List.find?_cons, ih]

theorem offered_without_of_ne {k : Text} (h : k ≠ id) : (r.without id).offered k = r.offered k := by
  apply offered_congr
  · rw [Bool.eq_iff_iff, isEnabled_iff_mem, isEnabled_iff_mem, without, List.mem_filter,
      and_iff_left (by simpa using h)]
  · exact find?_eraseP_of_ne h r.presets

theorem offered_without_self (r : Registry) (id : Text) : (r.without id).offered id = none := by
  have henabled : ¬(r.without id).isEnabled id = true := by
    simp [isEnabled_iff_mem, without]
  rw [offered, if_neg henabled]

theorem eq_custom_iff (hget : r.get? id = some (.custom f)) {k : Text} {p : Preset}
    (hp : r.offered k = some p) : p = .custom f ↔ k = id := by
  rw [offered] at hp
  split at hp
  · constructor
    · rintro rfl
      rw [← id_of_get? hp, id_of_get? hget]
    · rintro rfl
      rw [hget] at hp
      exact (Option.some.inj hp).symm
  · cases hp

theorem offered_without (hget : r.get? id = some (.custom f)) (k : Text) :
    (r.without id).offered k = (r.offered k).filter fun p => p ≠ .custom f := by
  by_cases hk : k = id
  · rw [hk, offered_without_self]
    cases hoffered : r.offered id with
    | none => rfl
    | some p => rw [Option.filter_some, if_neg (by simp [(eq_custom_iff hget hoffered).mpr rfl])]
  · rw [offered_without_of_ne hk]
    cases hoffered : r.offered k with
    | none => rfl
    | some p => rw [Option.filter_some, if_pos (by simp [eq_custom_iff hget hoffered, hk])]

theorem active_without_eq_filterMap (r : Registry) (id : Text) :
    (r.without id).active = r.settings.presetOrder.filterMap (r.without id).offered := by
  rw [active_eq_filterMap, without, List.filterMap_filter]
  refine List.filterMap_congr fun k _ => ?_
  by_cases hk : k = id
  · rw [if_neg (by simpa using hk), hk]
    exact (offered_without_self r id).symm
  · rw [if_pos (by simpa using hk)]

theorem active_without (hget : r.get? id = some (.custom f)) :
    (r.without id).active = r.active.filter fun p => p ≠ .custom f := by
  rw [active_without_eq_filterMap, active_eq_filterMap, List.filter_filterMap]
  exact List.filterMap_congr fun k _ => offered_without hget k

/-- The lists of the settings name presets that there are, those that are shown once each, and the
stored formats are the custom presets. -/
structure InStep (r : Registry) : Prop extends r.ListsOnce where
  order_registered : ∀ id ∈ r.settings.presetOrder, id ∈ r.ids
  presets_eq : r.presets = Builtin.all.map .builtin ++ r.settings.customFormats.map .custom

theorem InStep.extend (h : r.InStep) (hfault : r.fault? f = none) : (r.extend f).InStep := by
  refine { toListsOnce := h.toListsOnce.extend hfault, order_registered := ?_, presets_eq := ?_ }
  · intro id hid
    rw [ids_extend, List.mem_append]
    exact (List.mem_append.mp hid).imp_left (h.order_registered id)
  · change r.presets ++ [.custom f] = _ ++ (r.settings.customFormats ++ [f]).map .custom
    rw [h.presets_eq, List.map_append, List.append_assoc]
    rfl

theorem InStep.without (h : r.InStep) (hr : ofSettings r.settings = r)
    (hget : r.get? id = some (.custom f)) : (r.without id).InStep := by
  refine { toListsOnce := h.toListsOnce.without id, order_registered := ?_, presets_eq := ?_ }
  · intro k hk
    obtain ⟨hmem, hne⟩ := List.mem_filter.mp hk
    exact mem_ids_without (by simpa using hne) (h.order_registered k hmem)
  · calc
      (r.without id).presets = r.presets.filter fun p => p.id ≠ id :=
        eraseP_eq_filter id (ids_nodup hr)
      _ = Builtin.all.map .builtin ++
            (r.settings.customFormats.map Preset.custom).filter fun p => p.id ≠ id := by
        rw [h.presets_eq, List.filter_append, builtins_without hr hget]
      _ = Builtin.all.map .builtin ++ (r.without id).settings.customFormats.map .custom := by
        rw [List.filter_map]
        rfl

theorem InStep.after (h : r.InStep) (hr : ofSettings r.settings = r) (c : Change) :
    (r.after c).InStep := by
  have hlists : (r.after c).ListsOnce := h.toListsOnce.after c
  cases happly : c.apply r with
  | error e =>
      rw [Registry.after, happly]
      exact h
  | ok r' =>
      rw [Registry.after, happly] at hlists ⊢
      obtain ⟨ids, rfl⟩ | ⟨ids, hids, rfl⟩ | ⟨f, hfault, rfl⟩ | ⟨id, f, hget, rfl⟩ :=
        Change.apply_cases happly
      · exact ⟨hlists, h.order_registered, h.presets_eq⟩
      · exact ⟨hlists, hids, h.presets_eq⟩
      · exact h.extend hfault
      · exact h.without hr hget

theorem Reachable.inStep {s : Settings} (h : Reachable s r) (hs : (ofSettings s).InStep) :
    r.InStep := by
  induction h with
  | start => exact hs
  | after c hr ih => exact ih.after hr.ofSettings_settings c

theorem inStep_usual : (ofSettings (.usual (Builtin.all.map Builtin.id))).InStep := by
  refine { toListsOnce := listsOnce_usual, order_registered := ?_, presets_eq := rfl }
  intro id hid
  rw [ofSettings_settings] at hid
  exact hid

/-- A registry that comes of the usual settings is in step with its own settings. A format that is
added is shown behind the presets that were, and one that is removed is taken away from them. -/
theorem inStep_of_reachable (h : Reachable (.usual (Builtin.all.map Builtin.id)) r) :
    r.InStep ∧ r.customs = r.settings.customFormats ∧ r.settings.engine = {} ∧
      (∀ f r', r.add f = .ok r' → r'.active = r.active ++ [.custom f]) ∧
      ∀ id f r', r.remove id = .ok (r', f) →
        f.id = id ∧ r'.active = r.active.filter fun p => p ≠ .custom f := by
  have hstep : r.InStep := h.inStep inStep_usual
  refine ⟨hstep, customs_of_presets_eq hstep.presets_eq, h.engine_eq, ?_, ?_⟩
  · intro f r' hadd
    obtain ⟨hfault, rfl⟩ := add_eq_ok hadd
    exact active_extend hstep.order_registered ((fault?_eq_none_iff r f).mp hfault).2
  · intro id f r' hremove
    obtain ⟨hget, rfl⟩ := remove_eq_ok hremove
    exact ⟨id_of_get? hget, active_without hget⟩

/-- A format that the order mentions twice is removed, and another one is added. -/
theorem inStep_after_changes :
    let f : CustomFormat := { id := ['1'], name := ['n'], template := ['t'] }
    let g : CustomFormat := { id := ['2'], name := ['n'], template := ['t'] }
    let r := ((ofSettings (.usual (Builtin.all.map Builtin.id))).after (.add f)).after
      (.setOrder [['1'], Builtin.html.id, ['1']])
    Reachable (.usual (Builtin.all.map Builtin.id)) r ∧ r.InStep ∧
      r.active = [.custom f, .builtin .html, .custom f] ∧
        (∃ r', r.add g = .ok r' ∧
          r'.active = [.custom f, .builtin .html, .custom f, .custom g]) ∧
        ∃ r', r.remove ['1'] = .ok (r', f) ∧ r'.active = [.builtin .html] := by
  intro f g r
  have hr : Reachable (.usual (Builtin.all.map Builtin.id)) r := .after _ (.after _ .start)
  have hactive : r.active = [.custom f, .builtin .html, .custom f] := by decide
  have hadd : r.add g = .ok (r.extend g) := by decide
  have hremove : r.remove ['1'] = .ok (r.without ['1'], f) := by decide
  obtain ⟨hstep, -, -, hadded, hremoved⟩ := inStep_of_reachable hr
  refine ⟨hr, hstep, hactive, ⟨_, hadd, ?_⟩, _, hremove, ?_⟩
  · rw [hadded _ _ hadd, hactive]
    rfl
  · rw [(hremoved _ _ _ hremove).2, hactive]
    decide

end CopyFormat.Registry
