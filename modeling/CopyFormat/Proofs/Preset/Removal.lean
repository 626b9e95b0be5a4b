import CopyFormat.Proofs.Preset.InStep

/-!
A format that is added and removed again. Adding needs an id that no preset has, but the lists of
the settings may mention the id nevertheless, and there may be stored formats of it that have been
skipped. Removing takes all of these away as well, so that it gives the registry without the id,
which is the registry as it was when the id was mentioned nowhere.
-/

namespace CopyFormat.Registry

variable {r : Registry} {id : Text} {f : CustomFormat}

theorem validate_eq_ok_iff : r.validate f = .ok () ↔ r.fault? f = none := by
  rw [validate]
  cases r.fault? f with
  | none => simp
  | some e => simp

theorem id_ne_of_mem_presets (h : id ∉ r.ids) {p : Preset} (hp : p ∈ r.presets) : p.id ≠ id := by
  rintro rfl
  exact h (List.mem_map_of_mem hp)

theorem presets_without_of_not_mem (h : id ∉ r.ids) : (r.without id).presets = r.presets :=
  List.eraseP_of_forall_not fun p hp => by simpa using id_ne_of_mem_presets h hp

/-- The settings say nothing of an id. -/
structure Unmentioned (r : Registry) (id : Text) : Prop where
  not_enabled : id ∉ r.settings.enabledPresets
  not_ordered : id ∉ r.settings.presetOrder
  not_stored : ∀ g ∈ r.settings.customFormats, g.id ≠ id

theorem filter_ne_eq_self_iff {l : List Text} : (l.filter fun k => k ≠ id) = l ↔ id ∉ l := by
  rw [List.filter_eq_self]
  constructor
  · intro h hmem
    simpa using h id hmem
  · intro h k hk
    apply decide_eq_true
    rintro rfl
    exact h hk

theorem settings_without_eq_iff : (r.without id).settings = r.settings ↔ r.Unmentioned id := by
  constructor
  · intro h
    refine ⟨?_, ?_, ?_⟩
    · exact filter_ne_eq_self_iff.mp (congrArg Settings.enabledPresets h)
    · exact filter_ne_eq_self_iff.mp (congrArg Settings.presetOrder h)
    · intro g hg
      simpa using List.filter_eq_self.mp (congrArg Settings.customFormats h) g hg
  · rintro ⟨henabled, horder, hstored⟩
    have hformats : (r.settings.customFormats.filter fun g => g.id ≠ id) =
        r.settings.customFormats :=
      List.filter_eq_self.mpr fun g hg => decide_eq_true (hstored g hg)
    rw [without, filter_ne_eq_self_iff.mpr henabled, filter_ne_eq_self_iff.mpr horder, hformats]

theorem without_eq_self_iff (h : id ∉ r.ids) : r.without id = r ↔ r.Unmentioned id := by
  rw [← settings_without_eq_iff]
  constructor
  · exact congrArg Registry.settings
  · exact Registry.ext (presets_without_of_not_mem h)

theorem active_without_of_not_mem (h : id ∉ r.ids) : (r.without id).active = r.active := by
  rw [active_without_eq_filterMap, active_eq_filterMap]
  refine List.filterMap_congr fun k _ => ?_
  by_cases hk : k = id
  · rw [hk, offered_without_self, offered, (get?_eq_none_iff r id).mpr h, ite_self]
  · exact offered_without_of_ne hk

theorem InStep.unmentioned (hr : r.InStep) (h : id ∉ r.ids) : r.Unmentioned id where
  not_enabled := fun hmem => h (hr.registered id hmem)
  not_ordered := fun hmem => h (hr.order_registered id hmem)
  not_stored := by
    rintro g hg rfl
    apply h
    rw [ids, hr.presets_eq, List.map_append]
    exact List.mem_append_right _ (List.mem_map_of_mem (List.mem_map_of_mem hg))

theorem without_extend (h : f.id ∉ r.ids) : (r.extend f).without f.id = r.without f.id := by
  apply Registry.ext
  · have hnone : ∀ p ∈ r.presets, ¬decide (p.id = f.id) = true := fun p hp => by
      simpa using id_ne_of_mem_presets h hp
    calc
      ((r.extend f).without f.id).presets =
          r.presets ++ [Preset.custom f].eraseP fun p => p.id = f.id :=
        List.eraseP_append_right _ hnone
      _ = r.presets := by simp [Preset.id]
      _ = (r.without f.id).presets := (presets_without_of_not_mem h).symm
  · simp [without, extend]

/-- A format that may be added can be removed right after that, and nothing is left of it: all is as
it was, but for the mentions that the settings have made of its id before. None of these has shown
anything, and there are none in a registry that is in step with its own settings. -/
theorem remove_added (h : r.validate f = .ok ()) :
    ∃ r₁ r₂, r.add f = .ok r₁ ∧ r₁.remove f.id = .ok (r₂, f) ∧
      r₂.presets = r.presets ∧ r₂.settings.engine = r.settings.engine ∧
      r₂.settings.enabledPresets = (r.settings.enabledPresets.filter fun k => k ≠ f.id) ∧
      r₂.settings.presetOrder = (r.settings.presetOrder.filter fun k => k ≠ f.id) ∧
      r₂.settings.customFormats = (r.settings.customFormats.filter fun g => g.id ≠ f.id) ∧
      r₂.active = r.active ∧ (r₂ = r ↔ r.Unmentioned f.id) ∧ (r.InStep → r₂ = r) := by
  have hfault := validate_eq_ok_iff.mp h
  have hfree : f.id ∉ r.ids := ((fault?_eq_none_iff r f).mp hfault).2
  have hadd : r.add f = .ok (r.extend f) := by
    rw [add, hfault]
  have hremove : (r.extend f).remove f.id = .ok (r.without f.id, f) := by
    rw [remove, get?_extend_self hfree, ← without_extend hfree]
  have hsame := without_eq_self_iff hfree
  exact ⟨_, _, hadd, hremove, presets_without_of_not_mem hfree, rfl, rfl, rfl, rfl,
    active_without_of_not_mem hfree, hsame, fun hr => hsame.mpr (hr.unmentioned hfree)⟩

/-- Settings that mention an id of which there is only a stored format without a name. -/
def leftover : Settings where
  enabledPresets := [['1'], Builtin.html.id]
  presetOrder := [Builtin.html.id, ['1']]
  customFormats := [{ id := ['1'], name := [], template := ['t'] }]

/-- The mentions that were there before the format was added go with it. -/
theorem remove_added_leftover :
    let r := ofSettings leftover
    let f : CustomFormat := { id := ['1'], name := ['n'], template := ['u'] }
    r.validate f = .ok () ∧ ∃ r₁ r₂, r.add f = .ok r₁ ∧ r₁.remove ['1'] = .ok (r₂, f) ∧
      r₂.presets = r.presets ∧ r₂.settings.enabledPresets = [Builtin.html.id] ∧
      r₂.settings.customFormats = [] ∧ r₂.active = [.builtin .html] ∧ r₂ ≠ r := by
  intro r f
  have hvalid : r.validate f = .ok () := by decide
  obtain ⟨r₁, r₂, hadd, hremove, hpresets, -, henabled, -, hstored, hactive, hsame, -⟩ :=
    remove_added hvalid
  refine ⟨hvalid, r₁, r₂, hadd, hremove, hpresets, ?_, ?_, ?_, ?_⟩
  · rw [henabled]
    decide
  · rw [hstored]
    decide
  · rw [hactive]
    decide
  · rw [ne_eq, hsame]
    intro hnot
    exact hnot.not_enabled (by decide)

end CopyFormat.Registry
