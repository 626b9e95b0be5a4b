import CopyFormat.Proofs.Preset.Changes

/-!
What a toggle does. The presets that are shown are kept as a list of ids, which may mention an id
more often than once; a toggle takes one mention away, and the preset is shown as long as there is
another. So a toggle does what it says just when there is at most one, which holds in every
registry that comes of settings without needless mentions.
-/

namespace CopyFormat.Registry

variable {s : Settings} {r r' : Registry} {id : Text} {shown : Bool}

def mentions (r : Registry) (id : Text) : Nat := r.settings.enabledPresets.count id

theorem isEnabled_iff_mem : r.isEnabled id = true ↔ id ∈ r.settings.enabledPresets := by
  rw [isEnabled, List.contains_iff_mem]

theorem isEnabled_iff : r.isEnabled id = true ↔ 0 < r.mentions id := by
  rw [isEnabled_iff_mem, mentions, List.count_pos_iff]

/-- Two registries differ in nothing but whether the preset of an id is shown. -/
structure AgreesBeside (id : Text) (r r' : Registry) : Prop where
  isEnabled_eq : ∀ k, k ≠ id → r'.isEnabled k = r.isEnabled k
  presetOrder_eq : r'.settings.presetOrder = r.settings.presetOrder
  customFormats_eq : r'.settings.customFormats = r.settings.customFormats
  engine_eq : r'.settings.engine = r.settings.engine
  presets_eq : r'.presets = r.presets

theorem AgreesBeside.trans {r₁ : Registry} (h : AgreesBeside id r r₁)
    (h' : AgreesBeside id r₁ r') : AgreesBeside id r r' := by
  constructor
  · intro k hk
    rw [h'.isEnabled_eq k hk, h.isEnabled_eq k hk]
  · rw [h'.presetOrder_eq, h.presetOrder_eq]
  · rw [h'.customFormats_eq, h.customFormats_eq]
  · rw [h'.engine_eq, h.engine_eq]
  · rw [h'.presets_eq, h.presets_eq]

theorem AgreesBeside.active_eq (h : AgreesBeside id r r') (hid : r'.isEnabled id = r.isEnabled id) :
    r'.active = r.active := by
  have henabled : r'.isEnabled = r.isEnabled := by
    funext k
    by_cases hk : k = id
    · rw [hk, hid]
    · exact h.isEnabled_eq k hk
  have hget : r'.get? = r.get? := by
    funext k
    rw [get?, get?, h.presets_eq]
  rw [active, active, henabled, hget, h.presetOrder_eq]

theorem toggle_agrees (h : r.toggle id = .ok (r', shown)) : AgreesBeside id r r' := by
  obtain ⟨-, -, rfl⟩ := toggle_eq_ok h
  refine ⟨fun k hk => ?_, rfl, rfl, rfl, rfl⟩
  rw [Bool.eq_iff_iff, isEnabled_iff_mem]
  split
  · rw [isEnabled_iff_mem]
    exact List.mem_erase_of_ne hk
  · rw [isEnabled_iff_mem, withEnabled, List.mem_append, List.mem_singleton, or_iff_left hk]

theorem toggle_mentions (h : r.toggle id = .ok (r', shown)) :
    r'.mentions id = if r.isEnabled id then r.mentions id - 1 else 1 := by
  obtain ⟨-, -, rfl⟩ := toggle_eq_ok h
  rw [mentions, withEnabled]
  split
  · exact List.count_erase_self
  · rename_i henabled
    rw [isEnabled_iff, Nat.pos_iff_ne_zero, not_not] at henabled
    rw [List.count_append, List.count_singleton_self, ← mentions, henabled]

theorem exists_toggle (h : id ∈ r.ids) : ∃ r', r.toggle id = .ok (r', !r.isEnabled id) := by
  have hget : (r.get? id).isNone = false := by
    rwa [Option.isNone_eq_false_iff, get?_isSome_iff]
  rw [toggle, hget]
  cases r.isEnabled id with
  | true => exact ⟨_, rfl⟩
  | false => exact ⟨_, rfl⟩

/-- The toggled preset is as the toggle says just when its id was not mentioned twice. -/
theorem toggle_isEnabled_iff (h : r.toggle id = .ok (r', shown)) :
    r'.isEnabled id = shown ↔ r.mentions id ≤ 1 := by
  obtain ⟨-, rfl, -⟩ := toggle_eq_ok h
  have hmentions := toggle_mentions h
  cases henabled : r.isEnabled id with
  | true =>
      rw [henabled, if_pos rfl] at hmentions
      rw [Bool.not_true, ← Bool.not_eq_true, isEnabled_iff, hmentions]
      omega
  | false =>
      rw [henabled, if_neg Bool.false_ne_true] at hmentions
      have hnone : r.mentions id = 0 := by
        rwa [← Bool.not_eq_true, isEnabled_iff, Nat.pos_iff_ne_zero, not_not] at henabled
      rw [Bool.not_false, isEnabled_iff, hmentions, hnone]
      decide

/-- The ids of the presets that are shown are mentioned once each, and there are such presets. -/
structure ListsOnce (r : Registry) : Prop where
  nodup : r.settings.enabledPresets.Nodup
  registered : ∀ id ∈ r.settings.enabledPresets, id ∈ r.ids

theorem ListsOnce.mentions_le_one (h : r.ListsOnce) (id : Text) : r.mentions id ≤ 1 :=
  List.nodup_iff_count_le_one.mp h.nodup id

theorem nodup_append_singleton {ids : List Text} (h : ids.Nodup) (hid : id ∉ ids) :
    (ids ++ [id]).Nodup := by
  rw [← List.concat_eq_append]
  exact h.concat hid

theorem ListsOnce.toggle (h : r.ListsOnce) (htoggle : r.toggle id = .ok (r', shown)) :
    r'.ListsOnce := by
  obtain ⟨hid, -, rfl⟩ := toggle_eq_ok htoggle
  by_cases henabled : r.isEnabled id = true
  · rw [if_pos henabled]
    exact ⟨h.nodup.erase id, fun k hk => h.registered k (List.mem_of_mem_erase hk)⟩
  · rw [if_neg henabled]
    have hnotMem : id ∉ r.settings.enabledPresets := by
      rwa [isEnabled_iff_mem] at henabled
    constructor
    · exact nodup_append_singleton h.nodup hnotMem
    · intro k hk
      rcases List.mem_append.mp hk with hk | hk
      · exact h.registered k hk
      · rwa [List.mem_singleton.mp hk]

theorem ids_extend (r : Registry) (f : CustomFormat) : (r.extend f).ids = r.ids ++ [f.id] :=
  List.map_append

theorem ListsOnce.extend (h : r.ListsOnce) {f : CustomFormat} (hfault : r.fault? f = none) :
    (r.extend f).ListsOnce := by
  have hfree : f.id ∉ r.ids := ((fault?_eq_none_iff r f).mp hfault).2
  constructor
  · exact nodup_append_singleton h.nodup fun hmem => hfree (h.registered f.id hmem)
  · intro k hk
    rw [ids_extend, List.mem_append]
    exact (List.mem_append.mp hk).imp_left (h.registered k)

theorem mem_ids_without {k : Text} (hk : k ≠ id) (h : k ∈ r.ids) : k ∈ (r.without id).ids := by
  obtain ⟨p, hp, rfl⟩ := List.mem_map.mp h
  exact List.mem_map_of_mem ((List.mem_eraseP_of_neg (by simpa using hk)).mpr hp)

theorem ListsOnce.without (h : r.ListsOnce) (id : Text) : (r.without id).ListsOnce := by
  constructor
  · exact h.nodup.filter _
  · intro k hk
    obtain ⟨hmem, hne⟩ := List.mem_filter.mp hk
    exact mem_ids_without (by simpa using hne) (h.registered k hmem)

theorem ListsOnce.after (h : r.ListsOnce) (c : Change) : (r.after c).ListsOnce := by
  unfold Registry.after
  split
  · rename_i r' happly
    cases c with
    | toggle id =>
        obtain ⟨⟨r₁, shown⟩, htoggle, rfl⟩ := exists_of_map_eq_ok happly
        exact h.toggle htoggle
    | setOrder ids =>
        obtain ⟨-, rfl⟩ := setOrder_eq_ok happly
        exact ⟨h.nodup, h.registered⟩
    | add f =>
        obtain ⟨hfault, rfl⟩ := add_eq_ok happly
        exact h.extend hfault
    | remove id =>
        obtain ⟨⟨r₁, f⟩, hremove, rfl⟩ := exists_of_map_eq_ok happly
        obtain ⟨-, rfl⟩ := remove_eq_ok hremove
        exact h.without id
  · exact h

theorem Reachable.listsOnce (h : Reachable s r) (hs : (ofSettings s).ListsOnce) :
    r.ListsOnce := by
  induction h with
  | start => exact hs
  | after c _ ih => exact ih.after c

theorem listsOnce_usual : (ofSettings (.usual (Builtin.all.map Builtin.id))).ListsOnce := by
  constructor
  · rw [ofSettings_settings]
    exact start_ids_nodup {}
  · intro id hid
    rw [ofSettings_settings] at hid
    exact hid

/-- An id that is mentioned in the settings without a preset is mentioned twice as soon as a format
with that id is added. -/
example :
    let r := (ofSettings { enabledPresets := [['1']] }).after
      (.add { id := ['1'], name := ['n'], template := ['t'] })
    r.mentions ['1'] = 2 := by
  decide

/-- What a toggle answers is the opposite of what was shown, and nothing else changes. The preset
is then as the answer says, and a second toggle undoes the first, unless the id is mentioned more
than once. Then the preset stays shown, and a second toggle gives the same answer. -/
theorem toggle_flips (hr : Reachable s r) (h : r.toggle id = .ok (r', shown)) :
    shown = (!r.isEnabled id) ∧ AgreesBeside id r r' ∧
      (r.mentions id ≤ 1 → r'.isEnabled id = shown ∧
        ∃ r'', r'.toggle id = .ok (r'', !shown) ∧ r''.active = r.active) ∧
      (1 < r.mentions id → r'.isEnabled id = (!shown) ∧
        ∃ r'', r'.toggle id = .ok (r'', shown)) ∧
      ((ofSettings s).ListsOnce → r.mentions id ≤ 1) := by
  obtain ⟨hid, hshown, -⟩ := toggle_eq_ok h
  have hagrees := toggle_agrees h
  have hids : id ∈ r'.ids := by
    rwa [ids, hagrees.presets_eq]
  obtain ⟨r'', htoggle⟩ := exists_toggle hids
  refine ⟨hshown, hagrees, fun hle => ?_, fun hlt => ?_, fun hs => ?_⟩
  · have henabled := (toggle_isEnabled_iff h).mpr hle
    have hmentions : r'.mentions id ≤ 1 := by
      rw [toggle_mentions h]
      split <;> omega
    have hback : r''.isEnabled id = r.isEnabled id := by
      rw [(toggle_isEnabled_iff htoggle).mpr hmentions, henabled, hshown, Bool.not_not]
    rw [henabled] at htoggle
    exact ⟨henabled, r'', htoggle, (hagrees.trans (toggle_agrees htoggle)).active_eq hback⟩
  · have henabled : r'.isEnabled id = !shown := by
      rw [Bool.eq_not, Ne, toggle_isEnabled_iff h]
      omega
    rw [henabled, Bool.not_not] at htoggle
    exact ⟨henabled, r'', htoggle⟩
  · exact (hr.listsOnce hs).mentions_le_one id

/-- Settings that mention one id twice. -/
def repeated : Settings where
  enabledPresets := [Builtin.html.id, Builtin.html.id]
  presetOrder := [Builtin.html.id]

/-- A toggle that says that a preset is no longer shown, and it is. -/
theorem toggle_of_repeated :
    ¬∀ (s : Settings) (r r' : Registry) (id : Text) (shown : Bool), Reachable s r →
      r.toggle id = .ok (r', shown) → r'.isEnabled id = shown := by
  intro h
  have htoggle : (ofSettings repeated).toggle Builtin.html.id =
      .ok ((ofSettings repeated).withEnabled [Builtin.html.id], false) := by
    decide
  have henabled := h repeated _ _ _ _ .start htoggle
  revert henabled
  decide

/-- Toggling a preset that is mentioned once. -/
theorem toggle_flips_once :
    let r := ofSettings { enabledPresets := [Builtin.html.id], presetOrder := [Builtin.html.id] }
    ∃ r', r.toggle Builtin.html.id = .ok (r', false) ∧ r'.isEnabled Builtin.html.id = false ∧
      ∃ r'', r'.toggle Builtin.html.id = .ok (r'', true) ∧ r''.active = r.active := by
  intro r
  have htoggle : r.toggle Builtin.html.id = .ok (r.withEnabled [], false) := by
    decide
  obtain ⟨-, -, honce, -⟩ := toggle_flips (s := r.settings) .start htoggle
  exact ⟨_, htoggle, honce (by decide)⟩

end CopyFormat.Registry
