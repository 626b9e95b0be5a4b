import Mathlib.Data.List.Nodup
import CopyFormat.Preset.Registry

namespace CopyFormat.Registry

def ids (r : Registry) : List Text := r.presets.map Preset.id

def customs (r : Registry) : List CustomFormat :=
  r.presets.filterMap fun
    | .builtin _ => none
    | .custom f => some f

theorem get?_isSome_iff (r : Registry) (id : Text) : (r.get? id).isSome ↔ id ∈ r.ids := by
  simp [get?, ids]

theorem get?_eq_none_iff (r : Registry) (id : Text) : r.get? id = none ↔ id ∉ r.ids := by
  simp [get?, ids]

theorem id_of_get? {r : Registry} {id : Text} {p : Preset} (h : r.get? id = some p) :
    p.id = id := by
  simpa using List.find?_some h

theorem mem_of_get? {r : Registry} {id : Text} {p : Preset} (h : r.get? id = some p) :
    p ∈ r.presets :=
  List.mem_of_find?_eq_some h

theorem fault?_congr {r r' : Registry} {f : CustomFormat} (hids : f.id ∈ r.ids ↔ f.id ∈ r'.ids)
    (hwords : r.settings.engine.deniedWords = r'.settings.engine.deniedWords) :
    r.fault? f = r'.fault? f := by
  have hget : (r.get? f.id).isSome = (r'.get? f.id).isSome := by
    rw [Bool.eq_iff_iff, get?_isSome_iff, get?_isSome_iff]
    exact hids
  unfold fault?
  rw [hget, hwords]

/-- What a format must be to be registered, apart from having an id of its own. -/
structure Sound (words : List Text) (f : CustomFormat) : Prop where
  id : f.id.isBlankText = false
  name : f.name.isBlankText = false
  template : f.template ≠ []
  script : f.hasScript = true → Script.check words f.scriptSource = .ok ()

theorem fault?_eq_none_iff (r : Registry) (f : CustomFormat) :
    r.fault? f = none ↔ Sound r.settings.engine.deniedWords f ∧ f.id ∉ r.ids := by
  rw [← get?_isSome_iff, fault?]
  constructor
  · intro h
    split at h
    · cases h
    rename_i hid
    split at h
    · cases h
    rename_i hname
    split at h
    · cases h
    rename_i htemplate
    split at h
    · cases h
    rename_i htaken
    refine ⟨⟨by simpa using hid, by simpa using hname, by simpa using htemplate, ?_⟩, htaken⟩
    intro hscript
    rw [if_pos hscript] at h
    split at h
    · assumption
    · cases h
  · rintro ⟨⟨hid, hname, htemplate, hscript⟩, htaken⟩
    rw [if_neg (by simp [hid]), if_neg (by simp [hname]), if_neg (by simpa using htemplate),
      if_neg htaken]
    split
    · rename_i h
      rw [hscript h]
    · rfl

theorem enlist_of_fault {r : Registry} {f : CustomFormat} {e : PresetError}
    (h : r.fault? f = some e) : r.enlist f = r := by
  rw [enlist, h]

theorem enlist_of_sound {r : Registry} {f : CustomFormat} (h : r.fault? f = none) :
    r.enlist f = { r with presets := r.presets ++ [.custom f] } := by
  rw [enlist, h]

@[simp] theorem enlist_settings (r : Registry) (f : CustomFormat) :
    (r.enlist f).settings = r.settings := by
  unfold enlist
  split <;> rfl

@[simp] theorem foldl_enlist_settings (fs : List CustomFormat) (r : Registry) :
    (fs.foldl enlist r).settings = r.settings := by
  induction fs generalizing r with
  | nil => rfl
  | cons f fs ih => rw [List.foldl_cons, ih, enlist_settings]

@[simp] theorem ofSettings_settings (s : Settings) : (ofSettings s).settings = s :=
  foldl_enlist_settings _ _

/-- The registry of some settings, before their formats are enlisted. -/
def start (s : Settings) : Registry := { presets := Builtin.all.map .builtin, settings := s }

theorem ofSettings_eq_foldl (s : Settings) :
    ofSettings s = s.customFormats.foldl enlist (start s) :=
  rfl

theorem foldl_enlist_presets_congr (fs : List CustomFormat) {r r' : Registry}
    (hpresets : r.presets = r'.presets)
    (hwords : r.settings.engine.deniedWords = r'.settings.engine.deniedWords) :
    (fs.foldl enlist r).presets = (fs.foldl enlist r').presets := by
  induction fs generalizing r r' with
  | nil => exact hpresets
  | cons f fs ih =>
      have hfault : r.fault? f = r'.fault? f :=
        fault?_congr (by rw [ids, ids, hpresets]) hwords
      apply ih
      · unfold enlist
        rw [hfault]
        split
        · exact hpresets
        · rw [hpresets]
      · rw [enlist_settings, enlist_settings]
        exact hwords

theorem ofSettings_congr {s s' : Settings} (hformats : s'.customFormats = s.customFormats)
    (hwords : s'.engine.deniedWords = s.engine.deniedWords) :
    (ofSettings s').presets = (ofSettings s).presets := by
  rw [ofSettings_eq_foldl, ofSettings_eq_foldl, hformats]
  exact foldl_enlist_presets_congr _ rfl hwords

/-- What holds of the presets when formats are enlisted one after the other: the ids stay
distinct, the presets that were there come first, and behind them come sound formats in the order
in which they are stored. -/
theorem foldl_enlist_spec (fs : List CustomFormat) (r : Registry) (hids : r.ids.Nodup) :
    (fs.foldl enlist r).ids.Nodup ∧
      ∃ added : List CustomFormat,
        (fs.foldl enlist r).presets = r.presets ++ added.map .custom ∧ added.Sublist fs ∧
          ∀ f ∈ added, Sound r.settings.engine.deniedWords f := by
  induction fs generalizing r with
  | nil => exact ⟨hids, [], by simp⟩
  | cons f fs ih =>
      rw [List.foldl_cons]
      cases hfault : r.fault? f with
      | some e =>
          rw [enlist_of_fault hfault]
          obtain ⟨hnodup, added, hpresets, hsub, hsound⟩ := ih r hids
          exact ⟨hnodup, added, hpresets, hsub.cons f, hsound⟩
      | none =>
          obtain ⟨hf, hfree⟩ := (fault?_eq_none_iff r f).mp hfault
          have hids' : (r.enlist f).ids.Nodup := by
            rw [enlist_of_sound hfault]
            simp only [ids, List.map_append, List.map_cons, List.map_nil]
            exact List.nodup_append.mpr ⟨hids, List.nodup_singleton _, by
              intro a ha b hb hab
              rw [List.mem_singleton] at hb
              subst hab hb
              exact hfree ha⟩
          obtain ⟨hnodup, added, hpresets, hsub, hsound⟩ := ih (r.enlist f) hids'
          refine ⟨hnodup, f :: added, ?_, hsub.cons_cons f, ?_⟩
          · rw [hpresets, enlist_of_sound hfault]
            simp
          · rintro g (_ | ⟨_, hg⟩)
            · exact hf
            · simpa using hsound g hg

theorem start_ids_nodup (s : Settings) : (start s).ids.Nodup := by
  change (Builtin.all.map Builtin.id).Nodup
  decide

theorem ofSettings_ids_nodup (s : Settings) : (ofSettings s).ids.Nodup :=
  (foldl_enlist_spec s.customFormats (start s) (start_ids_nodup s)).1

theorem ofSettings_presets (s : Settings) :
    ∃ added : List CustomFormat,
      (ofSettings s).presets = Builtin.all.map .builtin ++ added.map .custom ∧
        added.Sublist s.customFormats ∧ ∀ f ∈ added, Sound s.engine.deniedWords f :=
  (foldl_enlist_spec s.customFormats (start s) (start_ids_nodup s)).2

end CopyFormat.Registry
