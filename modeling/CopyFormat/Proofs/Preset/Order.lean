import CopyFormat.Proofs.Preset.InStep

/-!
The order in which presets are shown. A preset is shown as often as the order mentions it, and the
order is taken as it is given, so that a preset is shown twice when an order that was asked for
names it twice. Nothing else brings a repetition about.
-/

namespace CopyFormat.Registry

variable {r : Registry} {id : Text}

theorem map_id_filterMap_get? {ids : List Text} (h : ∀ id ∈ ids, id ∈ r.ids) :
    (ids.filterMap r.get?).map Preset.id = ids := by
  induction ids with
  | nil => rfl
  | cons id ids ih =>
      obtain ⟨p, hp⟩ := Option.isSome_iff_exists.mp
        ((get?_isSome_iff r id).mpr (h id List.mem_cons_self))
      rw [List.filterMap_cons_some hp, List.map_cons, id_of_get? hp,
        ih fun k hk => h k (List.mem_cons_of_mem id hk)]

theorem map_id_active (horder : ∀ id ∈ r.settings.presetOrder, id ∈ r.ids) :
    r.active.map Preset.id = r.settings.presetOrder.filter r.isEnabled :=
  map_id_filterMap_get? fun id hid => horder id (List.mem_of_mem_filter hid)

theorem count_active (horder : ∀ id ∈ r.settings.presetOrder, id ∈ r.ids) (id : Text) :
    (r.active.map Preset.id).count id =
      if r.isEnabled id then r.settings.presetOrder.count id else 0 := by
  rw [map_id_active horder]
  split
  · rename_i henabled
    exact List.count_filter henabled
  · rename_i henabled
    refine List.count_eq_zero.mpr fun hmem => henabled ?_
    exact (List.mem_filter.mp hmem).2

theorem active_nodup_iff (horder : ∀ id ∈ r.settings.presetOrder, id ∈ r.ids) :
    (r.active.map Preset.id).Nodup ↔
      ∀ id, r.isEnabled id = true → r.settings.presetOrder.count id ≤ 1 := by
  rw [List.nodup_iff_count_le_one]
  refine forall_congr' fun id => ?_
  rw [count_active horder]
  cases r.isEnabled id with
  | true => simp
  | false => simp

/-- Whether a change, if it asks for an order, names no preset twice in it. -/
def Change.NamesOnce : Change → Prop
  | .setOrder ids => ids.Nodup
  | .toggle _ | .add _ | .remove _ => True

theorem presetOrder_after_setOrder (r : Registry) (ids : List Text) :
    (r.after (.setOrder ids)).settings.presetOrder =
      if ∀ id ∈ ids, id ∈ r.ids then ids else r.settings.presetOrder := by
  rw [Registry.after, Change.apply, setOrder]
  cases hfind : ids.find? fun id => (r.get? id).isNone with
  | none =>
      have hids : ∀ id ∈ ids, id ∈ r.ids := by
        intro id hid
        have hget := List.find?_eq_none.mp hfind id hid
        rwa [Option.isNone_iff_eq_none, get?_eq_none_iff, not_not] at hget
      rw [if_pos hids]
      rfl
  | some unknown =>
      have hunknown : unknown ∉ r.ids := by
        simpa [get?_eq_none_iff] using List.find?_some hfind
      rw [if_neg fun hids => hunknown (hids unknown (List.mem_of_find?_eq_some hfind))]

/-- The only change after which an order names a preset twice is one that asks for such an order
and is not refused. -/
theorem presetOrder_nodup_after_iff (hr : r.InStep) (h : r.settings.presetOrder.Nodup)
    (c : Change) :
    (r.after c).settings.presetOrder.Nodup ↔
      ∀ ids, c = .setOrder ids → (∀ id ∈ ids, id ∈ r.ids) → ids.Nodup := by
  cases c with
  | setOrder ids =>
      rw [presetOrder_after_setOrder]
      split
      · rename_i hids
        exact ⟨by rintro hnodup _ ⟨⟩ -; exact hnodup, fun hnodup => hnodup ids rfl hids⟩
      · rename_i hids
        exact ⟨by rintro - _ ⟨⟩ hids'; exact absurd hids' hids, fun _ => h⟩
  | toggle id =>
      refine iff_of_true ?_ (by rintro _ ⟨⟩)
      unfold Registry.after
      split
      · rename_i happly
        obtain ⟨⟨r₁, shown⟩, htoggle, rfl⟩ := exists_of_map_eq_ok happly
        obtain ⟨-, -, rfl⟩ := toggle_eq_ok htoggle
        exact h
      · exact h
  | add f =>
      refine iff_of_true ?_ (by rintro _ ⟨⟩)
      unfold Registry.after
      split
      · rename_i happly
        obtain ⟨hfault, rfl⟩ := add_eq_ok happly
        have hfree : f.id ∉ r.ids := ((fault?_eq_none_iff r f).mp hfault).2
        exact nodup_append_singleton h fun hmem => hfree (hr.order_registered f.id hmem)
      · exact h
  | remove id =>
      refine iff_of_true ?_ (by rintro _ ⟨⟩)
      unfold Registry.after
      split
      · rename_i happly
        obtain ⟨⟨r₁, f⟩, hremove, rfl⟩ := exists_of_map_eq_ok happly
        obtain ⟨-, rfl⟩ := remove_eq_ok hremove
        exact h.filter _
      · exact h

theorem Reachable.foldl {s : Settings} (h : Reachable s r) (cs : List Change) :
    Reachable s (cs.foldl Registry.after r) := by
  induction cs generalizing r with
  | nil => exact h
  | cons c cs ih => exact ih (h.after c)

theorem presetOrder_nodup_foldl {s : Settings} (hs : (ofSettings s).InStep) (h : Reachable s r)
    (horder : r.settings.presetOrder.Nodup) {cs : List Change} (hcs : ∀ c ∈ cs, c.NamesOnce) :
    (cs.foldl Registry.after r).settings.presetOrder.Nodup := by
  induction cs generalizing r with
  | nil => exact horder
  | cons c cs ih =>
      refine ih (h.after c) ?_ fun c' hc' => hcs c' (List.mem_cons_of_mem c hc')
      rw [presetOrder_nodup_after_iff (h.inStep hs) horder]
      rintro ids rfl -
      exact hcs _ List.mem_cons_self

/-- After any changes of the usual settings a preset is shown as often as the order names it, if
it is enabled. So none is shown twice unless the order names an enabled one twice, and that
takes a change that asks for such an order. -/
theorem shown_once (cs : List Change) :
    let r := cs.foldl Registry.after (ofSettings (.usual (Builtin.all.map Builtin.id)))
    r.active.map Preset.id = r.settings.presetOrder.filter r.isEnabled ∧
      ((r.active.map Preset.id).Nodup ↔
        ∀ id, r.isEnabled id = true → r.settings.presetOrder.count id ≤ 1) ∧
      ((∀ c ∈ cs, c.NamesOnce) → (r.active.map Preset.id).Nodup) := by
  intro r
  have hstart : Reachable (.usual (Builtin.all.map Builtin.id))
      (ofSettings (.usual (Builtin.all.map Builtin.id))) := .start
  have hstep : r.InStep := (hstart.foldl cs).inStep inStep_usual
  refine ⟨map_id_active hstep.order_registered, active_nodup_iff hstep.order_registered, ?_⟩
  intro hcs
  rw [map_id_active hstep.order_registered]
  refine (presetOrder_nodup_foldl inStep_usual hstart ?_ hcs).filter _
  rw [ofSettings_settings]
  exact start_ids_nodup {}

/-- An order that names a preset twice is taken, and the preset is shown twice. -/
theorem shown_twice :
    ¬∀ r : Registry, Reachable (.usual (Builtin.all.map Builtin.id)) r →
      (r.active.map Preset.id).Nodup := by
  intro h
  have hnodup := h _ (.after (.setOrder [Builtin.html.id, Builtin.html.id]) .start)
  revert hnodup
  decide

/-- A preset is hidden, a format is added, and both are named once in the order that is asked for
then. -/
theorem shown_once_ordered :
    let f : CustomFormat := { id := ['1'], name := ['n'], template := ['t'] }
    let cs : List Change := [.toggle Builtin.markdown.id, .add f,
      .setOrder [['1'], Builtin.markdown.id, Builtin.html.id]]
    let r := cs.foldl Registry.after (ofSettings (.usual (Builtin.all.map Builtin.id)))
    (∀ c ∈ cs, c.NamesOnce) ∧ r.active.map Preset.id = [['1'], Builtin.html.id] ∧
      (r.active.map Preset.id).Nodup := by
  intro f cs r
  have hcs : ∀ c ∈ cs, c.NamesOnce := by
    intro c hc
    simp only [cs, List.mem_cons, List.not_mem_nil, or_false] at hc
    rcases hc with rfl | rfl | rfl
    · trivial
    · trivial
    · exact (by decide : [['1'], Builtin.markdown.id, Builtin.html.id].Nodup)
  exact ⟨hcs, by decide, (shown_once cs).2.2 hcs⟩

end CopyFormat.Registry
