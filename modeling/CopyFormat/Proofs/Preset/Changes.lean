import CopyFormat.Proofs.Outcome
import CopyFormat.Proofs.Preset.Registry
import CopyFormat.Proofs.Script.Guard

/-!
Changes of a registry, asked one after the other. Whatever is asked, the registry stays the one
that its own settings give, so that nothing is gained or lost when it is built anew.
-/

namespace CopyFormat.Registry

inductive Change
  | toggle (id : Text)
  | setOrder (ids : List Text)
  | add (f : CustomFormat)
  | remove (id : Text)
  deriving DecidableEq, Repr

def Change.apply (r : Registry) : Change → Except PresetError Registry
  | .toggle id => (r.toggle id).map Prod.fst
  | .setOrder ids => r.setOrder ids
  | .add f => r.add f
  | .remove id => (r.remove id).map Prod.fst

/-- The registry after a change has been asked. A refused one leaves it as it is. -/
def after (r : Registry) (c : Change) : Registry :=
  match c.apply r with
  | .ok r' => r'
  | .error _ => r

/-- The registries that changes lead to from the registry of some settings. -/
inductive Reachable (s : Settings) : Registry → Prop
  | start : Reachable s (ofSettings s)
  | after {r : Registry} (c : Change) (h : Reachable s r) : Reachable s (r.after c)

/-! ### What a change can do -/

theorem toggle_eq_ok {r r' : Registry} {id : Text} {shown : Bool}
    (h : r.toggle id = .ok (r', shown)) :
    id ∈ r.ids ∧ shown = !r.isEnabled id ∧
      r' = r.withEnabled (if r.isEnabled id then r.settings.enabledPresets.erase id
        else r.settings.enabledPresets ++ [id]) := by
  unfold toggle at h
  split at h
  · cases h
  · rename_i hget
    have hid : id ∈ r.ids := by
      rwa [Option.isNone_iff_eq_none, get?_eq_none_iff, not_not] at hget
    split at h
    · rename_i henabled
      cases h
      exact ⟨hid, by rw [henabled]; rfl, by rw [if_pos henabled]⟩
    · rename_i henabled
      cases h
      exact ⟨hid, by simpa using henabled, by rw [if_neg henabled]⟩

theorem setOrder_eq_ok {r r' : Registry} {ids : List Text} (h : r.setOrder ids = .ok r') :
    (∀ id ∈ ids, id ∈ r.ids) ∧ r' = r.withOrder ids := by
  unfold setOrder at h
  split at h
  · cases h
  · rename_i hfind
    cases h
    refine ⟨fun id hid => ?_, rfl⟩
    have hget := List.find?_eq_none.mp hfind id hid
    rwa [Option.isNone_iff_eq_none, get?_eq_none_iff, not_not] at hget

theorem add_eq_ok {r r' : Registry} {f : CustomFormat} (h : r.add f = .ok r') :
    r.fault? f = none ∧ r' = r.extend f := by
  unfold add at h
  split at h
  · cases h
  · rename_i hfault
    cases h
    exact ⟨hfault, rfl⟩

theorem remove_eq_ok {r r' : Registry} {id : Text} {f : CustomFormat}
    (h : r.remove id = .ok (r', f)) : r.get? id = some (.custom f) ∧ r' = r.without id := by
  unfold remove at h
  split at h
  · cases h
  · cases h
  · rename_i hget
    cases h
    exact ⟨hget, rfl⟩

/-- All that an accepted change can do. -/
theorem Change.apply_cases {r r' : Registry} {c : Change} (h : c.apply r = .ok r') :
    (∃ ids, r' = r.withEnabled ids) ∨ (∃ ids, (∀ id ∈ ids, id ∈ r.ids) ∧ r' = r.withOrder ids) ∨
      (∃ f, r.fault? f = none ∧ r' = r.extend f) ∨
        ∃ id f, r.get? id = some (.custom f) ∧ r' = r.without id := by
  cases c with
  | toggle id =>
      obtain ⟨⟨r₁, shown⟩, htoggle, rfl⟩ := exists_of_map_eq_ok h
      exact .inl ⟨_, (toggle_eq_ok htoggle).2.2⟩
  | setOrder ids => exact .inr (.inl ⟨ids, setOrder_eq_ok h⟩)
  | add f => exact .inr (.inr (.inl ⟨f, add_eq_ok h⟩))
  | remove id =>
      obtain ⟨⟨r₁, f⟩, hremove, rfl⟩ := exists_of_map_eq_ok h
      exact .inr (.inr (.inr ⟨id, f, remove_eq_ok hremove⟩))

/-! ### Without an id -/

theorem eraseP_eq_filter {ps : List Preset} (id : Text) (h : (ps.map Preset.id).Nodup) :
    (ps.eraseP fun p => p.id = id) = ps.filter fun p => p.id ≠ id := by
  induction ps with
  | nil => rfl
  | cons p ps ih =>
      rw [List.map_cons, List.nodup_cons] at h
      by_cases hp : p.id = id
      · have hrest : ps.filter (fun q => q.id ≠ id) = ps := by
          rw [List.filter_eq_self]
          intro q hq
          have hne : q.id ≠ id := by
            rintro rfl
            exact h.1 (hp ▸ List.mem_map_of_mem hq)
          simpa using hne
        rw [List.eraseP_cons_of_pos (by simpa using hp),
          List.filter_cons_of_neg (by simpa using hp),
          hrest]
      · rw [List.eraseP_cons_of_neg (by simpa using hp),
          List.filter_cons_of_pos (by simpa using hp),
          ih h.2]

/-- Formats that have an id are enlisted without regard to presets of another one, so that taking
an id away before or after enlisting makes no difference. -/
theorem foldl_enlist_without (id : Text) (fs : List CustomFormat) {r r' : Registry}
    (hpresets : r'.presets = r.presets.filter fun p => p.id ≠ id)
    (hwords : r'.settings.engine.deniedWords = r.settings.engine.deniedWords) :
    ((fs.filter fun f => f.id ≠ id).foldl enlist r').presets =
      (fs.foldl enlist r).presets.filter fun p => p.id ≠ id := by
  induction fs generalizing r r' with
  | nil => exact hpresets
  | cons f fs ih =>
      rw [List.foldl_cons]
      by_cases hf : f.id = id
      · rw [List.filter_cons_of_neg (by simpa using hf)]
        apply ih
        · rw [hpresets]
          cases hfault : r.fault? f with
          | some e => rw [enlist_of_fault hfault]
          | none =>
              rw [enlist_of_sound hfault, List.filter_append,
                List.filter_cons_of_neg (by simp [Preset.id, hf]), List.filter_nil,
                List.append_nil]
        · rw [enlist_settings, hwords]
      · rw [List.filter_cons_of_pos (by simpa using hf), List.foldl_cons]
        have hids : f.id ∈ r'.ids ↔ f.id ∈ r.ids := by
          simp only [ids, hpresets, List.mem_map, List.mem_filter, decide_eq_true_eq]
          constructor
          · rintro ⟨p, ⟨hp, -⟩, hid⟩
            exact ⟨p, hp, hid⟩
          · rintro ⟨p, hp, hid⟩
            exact ⟨p, ⟨hp, by rwa [hid]⟩, hid⟩
        have hfault : r'.fault? f = r.fault? f := fault?_congr hids hwords
        apply ih
        · cases hr : r.fault? f with
          | some e => rw [enlist_of_fault hr, enlist_of_fault (hfault.trans hr), hpresets]
          | none =>
              rw [enlist_of_sound hr, enlist_of_sound (hfault.trans hr), hpresets,
                List.filter_append,
                List.filter_cons_of_pos (by simp [Preset.id, hf]), List.filter_nil]
        · rw [enlist_settings, enlist_settings, hwords]

/-! ### Registries are the ones of their settings -/

theorem ofSettings_withEnabled {r : Registry} (h : ofSettings r.settings = r) (ids : List Text) :
    ofSettings (r.withEnabled ids).settings = r.withEnabled ids := by
  refine Registry.ext ?_ (ofSettings_settings _)
  calc
    (ofSettings (r.withEnabled ids).settings).presets = (ofSettings r.settings).presets :=
      ofSettings_congr rfl rfl
    _ = r.presets := by rw [h]

theorem ofSettings_withOrder {r : Registry} (h : ofSettings r.settings = r) (ids : List Text) :
    ofSettings (r.withOrder ids).settings = r.withOrder ids := by
  refine Registry.ext ?_ (ofSettings_settings _)
  calc
    (ofSettings (r.withOrder ids).settings).presets = (ofSettings r.settings).presets :=
      ofSettings_congr rfl rfl
    _ = r.presets := by rw [h]

theorem ofSettings_extend {r : Registry} (h : ofSettings r.settings = r) {f : CustomFormat}
    (hfault : r.fault? f = none) : ofSettings (r.extend f).settings = r.extend f := by
  refine Registry.ext ?_ (ofSettings_settings _)
  calc
    (ofSettings (r.extend f).settings).presets =
        ((r.settings.customFormats ++ [f]).foldl enlist (start (r.extend f).settings)).presets :=
      rfl
    _ = ((r.settings.customFormats ++ [f]).foldl enlist (start r.settings)).presets :=
      foldl_enlist_presets_congr _ rfl rfl
    _ = ((ofSettings r.settings).enlist f).presets := by rw [List.foldl_append]; rfl
    _ = (r.extend f).presets := by rw [h, enlist_of_sound hfault]; rfl

theorem ids_nodup {r : Registry} (h : ofSettings r.settings = r) : r.ids.Nodup := by
  rw [← h]
  exact ofSettings_ids_nodup r.settings

theorem builtin_id_ne {r : Registry} (h : ofSettings r.settings = r) {id : Text}
    {f : CustomFormat} (hget : r.get? id = some (.custom f)) {p : Preset}
    (hp : p ∈ Builtin.all.map Preset.builtin) : p.id ≠ id := by
  intro hpid
  obtain ⟨added, hpresets, -, -⟩ := ofSettings_presets r.settings
  have hnodup := ids_nodup h
  have hmem := mem_of_get? hget
  rw [h] at hpresets
  rw [ids, hpresets, List.map_append, List.nodup_append] at hnodup
  rw [hpresets, List.mem_append] at hmem
  rcases hmem with hmem | hmem
  · obtain ⟨b, -, hb⟩ := List.mem_map.mp hmem
    cases hb
  · exact hnodup.2.2 _ (List.mem_map_of_mem hp) _ (List.mem_map_of_mem hmem)
      (hpid.trans (id_of_get? hget).symm)

theorem builtins_without {r : Registry} (h : ofSettings r.settings = r) {id : Text}
    {f : CustomFormat} (hget : r.get? id = some (.custom f)) :
    (Builtin.all.map Preset.builtin).filter (fun p => p.id ≠ id) =
      Builtin.all.map Preset.builtin := by
  rw [List.filter_eq_self]
  intro p hp
  simpa using builtin_id_ne h hget hp

/-- A stored format that has been skipped for its id does not come back when the id is removed,
since all stored formats of the id go with it. -/
theorem ofSettings_without {r : Registry} (h : ofSettings r.settings = r) {id : Text}
    {f : CustomFormat} (hget : r.get? id = some (.custom f)) :
    ofSettings (r.without id).settings = r.without id := by
  have hbuiltin := builtins_without h hget
  refine Registry.ext ?_ (ofSettings_settings _)
  calc
    (ofSettings (r.without id).settings).presets =
        ((r.settings.customFormats.filter fun f => f.id ≠ id).foldl enlist
          (start (r.without id).settings)).presets := rfl
    _ = (r.settings.customFormats.foldl enlist (start r.settings)).presets.filter
          fun p => p.id ≠ id := foldl_enlist_without id _ hbuiltin.symm rfl
    _ = r.presets.filter fun p => p.id ≠ id := by rw [← ofSettings_eq_foldl, h]
    _ = (r.without id).presets := (eraseP_eq_filter id (ids_nodup h)).symm

theorem ofSettings_after {r : Registry} (h : ofSettings r.settings = r) (c : Change) :
    ofSettings (r.after c).settings = r.after c := by
  unfold after
  split
  · rename_i r' happly
    obtain ⟨ids, rfl⟩ | ⟨ids, -, rfl⟩ | ⟨f, hfault, rfl⟩ | ⟨id, f, hget, rfl⟩ :=
      Change.apply_cases happly
    · exact ofSettings_withEnabled h ids
    · exact ofSettings_withOrder h ids
    · exact ofSettings_extend h hfault
    · exact ofSettings_without h hget
  · exact h

theorem Reachable.ofSettings_settings {s : Settings} {r : Registry} (h : Reachable s r) :
    ofSettings r.settings = r := by
  induction h with
  | start => rw [Registry.ofSettings_settings]
  | after c _ ih => exact ofSettings_after ih c

theorem after_engine (r : Registry) (c : Change) :
    (r.after c).settings.engine = r.settings.engine := by
  unfold after
  split
  · rename_i happly
    obtain ⟨ids, rfl⟩ | ⟨ids, -, rfl⟩ | ⟨f, -, rfl⟩ | ⟨id, f, -, rfl⟩ :=
      Change.apply_cases happly <;> rfl
  · rfl

theorem Reachable.engine_eq {s : Settings} {r : Registry} (h : Reachable s r) :
    r.settings.engine = s.engine := by
  induction h with
  | start => rw [Registry.ofSettings_settings]
  | after c _ ih => rw [after_engine, ih]

/-- What holds of a registry however it has been changed since it was built from the settings
`s`. -/
structure WellFormed (s : Settings) (r : Registry) : Prop where
  ids_nodup : r.ids.Nodup
  presets_eq : r.presets = Builtin.all.map .builtin ++ r.customs.map .custom
  customs_sublist : r.customs.Sublist r.settings.customFormats
  id_not_blank : ∀ f ∈ r.customs, f.id.isBlankText = false
  name_not_blank : ∀ f ∈ r.customs, f.name.isBlankText = false
  template_ne_nil : ∀ f ∈ r.customs, f.template ≠ []
  script_accepted : ∀ f ∈ r.customs,
    Script.check r.settings.engine.deniedWords f.scriptSource = .ok ()
  engine_eq : r.settings.engine = s.engine
  rebuilt : ofSettings r.settings = r

theorem customs_of_presets_eq {r : Registry} {fs : List CustomFormat}
    (h : r.presets = Builtin.all.map .builtin ++ fs.map .custom) : r.customs = fs := by
  rw [customs, h, List.filterMap_append, List.filterMap_map, List.filterMap_map,
    List.filterMap_eq_nil_iff.mpr (by intro b _; rfl), List.nil_append]
  exact List.filterMap_some

theorem Sound.check_eq_ok {words : List Text} {f : CustomFormat} (h : Sound words f) :
    Script.check words f.scriptSource = .ok () := by
  cases hscript : f.hasScript with
  | true => exact h.script hscript
  | false => exact Script.check_of_blank _ (by simpa [CustomFormat.hasScript] using hscript)

theorem wellFormed_of_reachable {s : Settings} {r : Registry} (h : Reachable s r) :
    r.WellFormed s := by
  have hrebuilt := h.ofSettings_settings
  have hnodup := ofSettings_ids_nodup r.settings
  obtain ⟨added, hpresets, hsub, hsound⟩ := ofSettings_presets r.settings
  rw [hrebuilt] at hnodup hpresets
  have hcustoms := customs_of_presets_eq hpresets
  subst hcustoms
  exact {
    ids_nodup := hnodup
    presets_eq := hpresets
    customs_sublist := hsub
    id_not_blank := fun f hf => (hsound f hf).id
    name_not_blank := fun f hf => (hsound f hf).name
    template_ne_nil := fun f hf => (hsound f hf).template
    script_accepted := fun f hf => (hsound f hf).check_eq_ok
    engine_eq := h.engine_eq
    rebuilt := hrebuilt }

/-- Settings with two formats of one id, of which the second is skipped, and a refused one. -/
def shadowing : Settings where
  customFormats :=
    [{ id := ['1'], name := ['a'], template := ['t'] },
      { id := ['1'], name := ['b'], template := ['t'] },
      { id := ['2'], name := ['c'], template := ['t'], scriptSource := Text.lit "window" }]

/-- Removing a format does not bring the one back that it shadowed. -/
theorem wellFormed_shadowing_removed :
    let r := (ofSettings shadowing).after (.remove ['1'])
    (ofSettings shadowing).customs.map CustomFormat.name = [['a']] ∧ r.customs = [] ∧
      r.WellFormed shadowing := by
  refine ⟨by decide, by decide, wellFormed_of_reachable (.after _ .start)⟩

end CopyFormat.Registry
