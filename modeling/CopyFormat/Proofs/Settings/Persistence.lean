import CopyFormat.Proofs.Settings.Form
import CopyFormat.Proofs.Settings.Load

/-!
Settings survive being stored. What is saved is loaded again, what is stored counts field by field
over the usual settings, and a store without settings is given the usual ones. Of the other values
in a store nothing changes but, in a file, numbers that are not read back as what they are.
-/

namespace CopyFormat

open Json

variable {store : Store} {fields fields' : Fields} {key : Text} {value : Json}

namespace Store

/-- Whether the values in a store have the form of values: the fields of an object are in order,
each key once. A file can hold no others. -/
def Formed : Store → Prop
  | .memory fields => ∃ d, Shaped d (.object fields)
  | .file _ => True

/-- Whether every number in a store is read back as what it is, if the store is a file. -/
def Exact : Store → Prop
  | .memory _ => True
  | .file f => ∀ fields, f.Holds fields → ∀ n, Mentions n (.object fields) → n.Exact

/-- Whether every number in a store is read back at all, if the store is a file. -/
def Rereadable : Store → Prop
  | .memory _ => True
  | .file f => f.Rereadable

theorem Formed.exists_shaped (h : store.Formed) (hentries : store.entries = .ok fields) :
    ∃ d, Shaped d (.object fields) := by
  cases store with
  | memory m =>
      cases hentries
      exact h
  | file f => exact ⟨_, (SettingsFile.holds_iff.mpr hentries).shaped⟩

theorem Formed.sorted_of_field? (h : store.Formed) (hentries : store.entries = .ok fields)
    (hvalue : field? key fields = some value) : Sorted value.ownFields := by
  obtain ⟨_, hshaped⟩ := h.exists_shaped hentries
  cases hshaped with
  | object _ hfields =>
      cases hfields _ (mem_of_field? hvalue) with
      | object hsorted _ => exact hsorted
      | _ => exact List.Pairwise.nil

theorem Exact.entries_renewed (h : store.Exact) (key : Text) (hentries : store.entries = .ok fields)
    (hvalue : Normal Number.Exact 126 value) :
    (store.renewed (setField key value fields)).entries = .ok (setField key value fields) := by
  cases store with
  | memory m => rfl
  | file f =>
      have hholds := SettingsFile.holds_iff.mpr hentries
      have hexact := (hholds.shaped.of_mentions (h fields hholds)).setField key hvalue
      have hreread : (Json.object (setField key value fields)).reread? = _ := hexact.reread?_eq_self
      obtain ⟨fields', hfields', hobject⟩ := Option.map_eq_some_iff.mp hreread
      cases hobject
      exact SettingsFile.holds_iff.mp
        ((SettingsFile.holds_ofEntries_iff (hexact.imp fun _ _ => trivial)).mpr hfields')

theorem Rereadable.exists_entries_renewed (h : store.Rereadable) (key : Text)
    (hentries : store.entries = .ok fields) (hvalue : Normal Number.Rereadable 126 value) :
    ∃ fields', (store.renewed (setField key value fields)).entries = .ok fields' := by
  cases store with
  | memory m => exact ⟨_, rfl⟩
  | file f =>
      have hholds := SettingsFile.holds_iff.mpr hentries
      have hnormal := (hholds.shaped.of_mentions (h fields hholds)).setField key hvalue
      obtain ⟨w, hw⟩ := hnormal.exists_reread?
      obtain ⟨fields', hfields', -⟩ := Option.map_eq_some_iff.mp hw
      exact ⟨fields', SettingsFile.holds_iff.mp
        ((SettingsFile.holds_ofEntries_iff (hnormal.imp fun _ _ => trivial)).mpr hfields')⟩

end Store

namespace Settings

variable {ids : List Text} {s : Settings}

/-- Saved settings are loaded again, and the other values of a store are left alone as far as
numbers are read back from their texts. -/
structure Kept (ids : List Text) (s : Settings) (store saved : Store) : Prop where
  load_eq : (∃ v, saved.get storeKey = .ok v) → load ids saved = (s, saved)
  others : (∃ v, saved.get storeKey = .ok v) → ∀ key ≠ storeKey,
    saved.get key = (store.get key).map store.reread?
  readable : store.Rereadable → ∃ v, saved.get storeKey = .ok v
  exact : store.Exact →
    load ids saved = (s, saved) ∧ ∀ key ≠ storeKey, saved.get key = store.get key

theorem rereadable_toJson (h : s.engine.Storable) : Normal Number.Rereadable 126 s.toJson :=
  (exact_toJson h).imp fun n hn => ⟨.number n, hn⟩

theorem kept_of_save (ids : List Text) (hs : s.engine.Storable)
    (hentries : store.entries = .ok fields) :
    Kept ids s store (store.renewed (setField storeKey s.toJson fields)) where
  load_eq := by
    rintro ⟨v, hv⟩
    obtain ⟨fields', hrenewed⟩ := Store.exists_entries_of_get hv
    exact load_renewed ids hs hentries hrenewed
  others := by
    rintro ⟨v, hv⟩ key hkey
    obtain ⟨fields', hrenewed⟩ := Store.exists_entries_of_get hv
    have hshaped : Shaped 126 s.toJson := (exact_toJson hs).imp fun _ _ => trivial
    rw [Store.get_of_entries hrenewed, Store.get_of_entries hentries,
      Store.field?_of_renewed hentries hshaped hrenewed, field?_setField_of_ne hkey.symm]
    rfl
  readable := by
    intro hreread
    obtain ⟨fields', hrenewed⟩ :=
      hreread.exists_entries_renewed storeKey hentries (rereadable_toJson hs)
    exact ⟨_, Store.get_of_entries hrenewed⟩
  exact := by
    intro hexact
    have hrenewed := hexact.entries_renewed storeKey hentries (exact_toJson hs)
    refine ⟨load_renewed ids hs hentries hrenewed, fun key hkey => ?_⟩
    rw [Store.get_of_entries hrenewed, Store.get_of_entries hentries,
      field?_setField_of_ne hkey.symm]

/-- What becomes of settings in a store that answers. -/
structure Persistent (ids : List Text) (store : Store) : Prop where
  saved : ∀ s : Settings, s.engine.Storable →
    ∃ saved, s.save store = .ok saved ∧ Kept ids s store saved
  merged : ∀ stored, store.get storeKey = .ok (some stored) →
    (Spoiled stored.ownFields ∧ load ids store = (usual ids, store)) ∨
      ¬Spoiled stored.ownFields ∧
        ∃ s, Overrides ids stored.ownFields s ∧ load ids store = (s, store)
  reloaded : ∀ stored, store.get storeKey = .ok (some stored) →
    ∃ saved, (load ids store).1.save (load ids store).2 = .ok saved ∧
      Kept ids (load ids store).1 store saved
  first : store.get storeKey = .ok none →
    ∃ written, (usual ids).save store = .ok written ∧ load ids store = (usual ids, written) ∧
      load ids written = (usual ids, written) ∧ Kept ids (usual ids) store written

/-- Settings that are saved in a store that answers are loaded again, and what is stored counts
field by field over the usual settings, which are written where nothing is stored. -/
theorem persistent (ids : List Text) (hformed : store.Formed)
    (hget : ∃ v, store.get storeKey = .ok v) : Persistent ids store := by
  obtain ⟨v, hv⟩ := hget
  obtain ⟨fields, hentries⟩ := Store.exists_entries_of_get hv
  have hsave : ∀ s : Settings, s.engine.Storable →
      ∃ saved, s.save store = .ok saved ∧ Kept ids s store saved :=
    fun s hs => ⟨_, Store.set_of_entries hentries, kept_of_save ids hs hentries⟩
  refine ⟨hsave, ?_, ?_, ?_⟩
  · intro stored hstored
    have hload : load ids store = ((overUsual? ids stored).getD (usual ids), store) := by
      rw [load, hstored]
    rw [Store.get_of_entries hentries] at hstored
    have hsorted := hformed.sorted_of_field? hentries (Except.ok.inj hstored)
    cases hover : overUsual? ids stored with
    | none =>
        rw [hover] at hload
        exact .inl ⟨(overUsual?_eq_none_iff hsorted).mp hover, hload⟩
    | some s =>
        have hs := (overUsual?_eq_some_iff hsorted).mp hover
        rw [hover] at hload
        exact .inr ⟨(exists_overrides_iff ids).mp ⟨s, hs⟩, s, hs, hload⟩
  · intro stored hstored
    -- Loading has not touched the store, so that this is a save like any other.
    have hstore : (load ids store).2 = store := by rw [load, hstored]
    rw [hstore]
    exact hsave _ (storable_load ids store)
  · intro hnone
    obtain ⟨written, hwritten, hkept⟩ := hsave (usual ids) Script.Limits.storable_usual
    refine ⟨written, hwritten, ?_, ?_, hkept⟩
    · rw [load, hnone]
      simp only [hwritten]
    · cases hget : written.get storeKey with
      | ok v => exact hkept.load_eq ⟨v, hget⟩
      | error e => rw [load, hget]

/-- A store in a file with an integer beside settings of which some are left out, some written as an
array and one unknown. -/
def sparse : Store :=
  .file (.text (Text.lit ("\x7b\"n\": -7, \"presetSettings\": \x7b\"enabledPresets\": [\"b\"], " ++
    "\"engine\": [5], \"theme\": null\x7d\x7d")))

theorem persistent_sparse :
    let ids := [['a'], ['b']]
    (sparse.Formed ∧ ∃ v, sparse.get storeKey = .ok v) ∧ Persistent ids sparse ∧
      (load ids sparse).1 =
        { enabledPresets := [['b']], presetOrder := ids, engine := { milliseconds := 5 } } := by
  have hget : ∃ v, sparse.get storeKey = .ok v := ⟨_, rfl⟩
  exact ⟨⟨trivial, hget⟩, persistent _ trivial hget, by decide +kernel⟩

/-- A store in a file with a fraction that is not read back from its shortest text. -/
def drifting : Store :=
  .file (.text (Text.lit "\x7b\"o\": 56.8662727643107628, \"presetSettings\": \x7b\x7d\x7d"))

end Settings

namespace Store

def bits? (store : Store) (key : Text) : Option UInt64 :=
  match store.get key with
  | .ok (some (.number (.real x))) => some x.toBits
  | _ => none

theorem bits?_congr {store' : Store} (h : store.get key = store'.get key) :
    store.bits? key = store'.bits? key := by
  rw [bits?, h, bits?]

theorem exists_get_of_bits? {bits : UInt64} (h : store.bits? key = some bits) :
    ∃ v, store.get key = .ok v := by
  unfold bits? at h
  split at h
  · rename_i hget
    exact ⟨_, hget⟩
  · cases h

end Store

namespace Settings

/-- Saving settings can change a number that stands beside them. -/
theorem drifting_not_kept :
    (∃ v, drifting.get storeKey = .ok v) ∧ ∃ saved, (usual []).save drifting = .ok saved ∧
      load [] saved = (usual [], saved) ∧ saved.get ['o'] ≠ drifting.get ['o'] := by
  have hget : ∃ v, drifting.get storeKey = .ok v := ⟨_, rfl⟩
  obtain ⟨fields, hentries⟩ := Store.exists_entries_of_get hget.choose_spec
  have hsaved : (usual []).save drifting = .ok _ := Store.set_of_entries hentries
  have hkept := kept_of_save [] (s := usual []) Script.Limits.storable_usual hentries
  have hbefore : drifting.bits? ['o'] = some 0x404c6ee206a410ac := by decide +kernel
  have hafter : ((usual []).save drifting).map (fun s => s.bits? ['o']) =
      .ok (some 0x404c6ee206a410ad) := by decide +kernel
  rw [hsaved] at hafter
  replace hafter : Store.bits? _ ['o'] = _ := Except.ok.inj hafter
  obtain ⟨v, hv⟩ := Store.exists_get_of_bits? hafter
  obtain ⟨fields', hrenewed⟩ := Store.exists_entries_of_get hv
  refine ⟨hget, _, hsaved, hkept.load_eq ⟨_, Store.get_of_entries hrenewed⟩, fun heq => ?_⟩
  have hsame := Store.bits?_congr heq
  rw [hafter, hbefore] at hsame
  exact absurd hsame (by decide)

end Settings

end CopyFormat
