import CopyFormat.Proofs.Settings.File
import CopyFormat.Proofs.Settings.RoundTrip
import CopyFormat.Settings.Load

/-!
Settings that are saved in a file are loaded from it again, and loading does not change what is
loaded next.
-/

namespace CopyFormat

open Json

variable {file : SettingsFile} {fields : Fields}

namespace Store

variable {store : Store} {key : Text} {value : Json}

/-- A store of the same kind that holds other values. -/
def renewed : Store → Fields → Store
  | .memory _, fields => .memory fields
  | .file _, fields => .file (.ofEntries fields)

theorem get_of_entries (h : store.entries = .ok fields) :
    store.get key = .ok (field? key fields) := by
  rw [get, h]
  rfl

theorem get_of_error {e : StoreError} (h : store.entries = .error e) :
    store.get key = .error e := by
  rw [get, h]
  rfl

theorem set_of_entries (h : store.entries = .ok fields) :
    store.set key value = .ok (store.renewed (setField key value fields)) := by
  rw [set, h]
  cases store <;> rfl

theorem set_of_error {e : StoreError} (h : store.entries = .error e) :
    store.set key value = .error e := by
  rw [set, h]
  rfl

theorem exists_entries_of_get {v : Option Json} (h : store.get key = .ok v) :
    ∃ fields, store.entries = .ok fields := by
  cases hentries : store.entries with
  | ok fields => exact ⟨fields, rfl⟩
  | error e =>
      rw [get_of_error hentries] at h
      cases h

/-- What is got under a key, after the store has been written anew, in place of what was there. -/
def reread? : Store → Option Json → Option Json
  | .memory _, v => v
  | .file _, v => v.bind Json.reread?

theorem field?_of_renewed {fields' : Fields} (hentries : store.entries = .ok fields)
    (hvalue : Shaped 126 value)
    (hrenewed : (store.renewed (setField key value fields)).entries = .ok fields') (k : Text) :
    field? k fields' = store.reread? (field? k (setField key value fields)) := by
  cases store with
  | memory m =>
      cases hrenewed
      rfl
  | file f =>
      have hshaped := (SettingsFile.holds_iff.mpr hentries).shaped.setField key hvalue
      have hreread :=
        (SettingsFile.holds_ofEntries_iff hshaped).mp (SettingsFile.holds_iff.mpr hrenewed)
      exact field?_rereadFields? hreread k

end Store

namespace Settings

variable {ids : List Text} {s : Settings} {store : Store}

theorem save_of_entries (s : Settings) (h : file.entries = .ok fields) :
    s.save (.file file) = .ok (.file (.ofEntries (setField storeKey s.toJson fields))) := by
  have hentries : (Store.file file).entries = .ok fields := h
  exact Store.set_of_entries hentries

theorem save_of_error (s : Settings) {e : StoreError} (h : file.entries = .error e) :
    s.save (.file file) = .error e := by
  have hentries : (Store.file file).entries = .error e := h
  exact Store.set_of_error hentries

/-- All that loading can do. -/
theorem load_cases (ids : List Text) (store : Store) :
    (∃ e, store.entries = .error e ∧ load ids store = (usual ids, store)) ∨
      (∃ fields stored, store.entries = .ok fields ∧ field? storeKey fields = some stored ∧
        load ids store = ((overUsual? ids stored).getD (usual ids), store)) ∨
      ∃ fields, store.entries = .ok fields ∧ field? storeKey fields = none ∧
        load ids store =
          (usual ids, store.renewed (setField storeKey (usual ids).toJson fields)) := by
  rw [load]
  cases hentries : store.entries with
  | error e =>
      refine .inl ⟨e, rfl, ?_⟩
      rw [Store.get_of_error hentries]
  | ok fields =>
      rw [Store.get_of_entries hentries]
      cases hstored : field? storeKey fields with
      | some stored => exact .inr (.inl ⟨fields, stored, rfl, hstored, rfl⟩)
      | none =>
          refine .inr (.inr ⟨fields, rfl, hstored, ?_⟩)
          rw [save, Store.set_of_entries hentries]

theorem load_file_cases (ids : List Text) (file : SettingsFile) :
    (∃ e, file.entries = .error e ∧ load ids (.file file) = (usual ids, .file file)) ∨
      (∃ fields stored, file.entries = .ok fields ∧ field? storeKey fields = some stored ∧
        load ids (.file file) = ((overUsual? ids stored).getD (usual ids), .file file)) ∨
      ∃ fields, file.entries = .ok fields ∧ field? storeKey fields = none ∧
        load ids (.file file) =
          (usual ids, .file (.ofEntries (setField storeKey (usual ids).toJson fields))) :=
  load_cases ids (.file file)

theorem storable_load (ids : List Text) (store : Store) :
    (load ids store).1.engine.Storable := by
  obtain ⟨_, -, hload⟩ | ⟨_, stored, -, -, hload⟩ | ⟨_, -, -, hload⟩ := load_cases ids store
  · rw [hload]
    exact Script.Limits.storable_usual
  · rw [hload]
    cases hover : overUsual? ids stored with
    | none => exact Script.Limits.storable_usual
    | some s => exact storable_of_overUsual? hover
  · rw [hload]
    exact Script.Limits.storable_usual

theorem normal_saved (h : Normal Number.IsInteger nestingLimit (.object fields))
    (hs : s.engine.Storable) :
    Normal Number.IsInteger nestingLimit (.object (setField storeKey s.toJson fields)) :=
  h.setField _ ((normal_toJson hs).mono (by decide))

theorem exact_toJson (h : s.engine.Storable) : Normal Number.Exact 126 s.toJson :=
  ((normal_toJson h).imp fun _ => Number.IsInteger.exact).mono (by decide)

theorem field?_of_saved {fields' : Fields} (hs : s.engine.Storable)
    (hentries : store.entries = .ok fields)
    (hrenewed : (store.renewed (setField storeKey s.toJson fields)).entries = .ok fields') :
    field? storeKey fields' = some s.toJson := by
  have hexact := exact_toJson hs
  rw [Store.field?_of_renewed hentries (hexact.imp fun _ _ => trivial) hrenewed,
    field?_setField_self]
  cases store with
  | memory _ => rfl
  | file _ => exact hexact.reread?_eq_self

/-- Saved settings are loaded again, whatever else the store has, if the store can still be
read. -/
theorem load_renewed (ids : List Text) {fields' : Fields} (hs : s.engine.Storable)
    (hentries : store.entries = .ok fields)
    (hrenewed : (store.renewed (setField storeKey s.toJson fields)).entries = .ok fields') :
    load ids (store.renewed (setField storeKey s.toJson fields)) =
      (s, store.renewed (setField storeKey s.toJson fields)) := by
  have hstored := field?_of_saved hs hentries hrenewed
  obtain ⟨_, herror, -⟩ | ⟨_, _, hok, hsome, hload⟩ | ⟨_, hok, hnone, -⟩ :=
    load_cases ids (store.renewed (setField storeKey s.toJson fields))
  · rw [hrenewed] at herror
    cases herror
  · rw [hrenewed] at hok
    cases hok
    rw [hstored] at hsome
    cases hsome
    rw [hload, overUsual?_toJson ids hs]
    rfl
  · rw [hrenewed] at hok
    cases hok
    rw [hstored] at hnone
    cases hnone

theorem load_again (ids : List Text) (store : Store) :
    load ids (load ids store).2 = load ids store := by
  obtain ⟨_, -, hload⟩ | ⟨_, _, -, -, hload⟩ | ⟨fields, hfields, -, hload⟩ :=
    load_cases ids store
  · rw [hload, hload]
  · rw [hload, hload]
  · rw [hload]
    dsimp only
    -- What has been written need not be readable, and then it stays with the usual settings.
    cases hrenewed : (store.renewed (setField storeKey (usual ids).toJson fields)).entries with
    | ok fields' => exact load_renewed ids Script.Limits.storable_usual hfields hrenewed
    | error e => rw [load, Store.get_of_error hrenewed]

theorem load_saved (ids : List Text) (hentries : file.entries = .ok fields)
    (h : Normal Number.IsInteger nestingLimit (.object fields)) (hs : s.engine.Storable) :
    load ids (.file (.ofEntries (setField storeKey s.toJson fields))) =
      (s, .file (.ofEntries (setField storeKey s.toJson fields))) := by
  have hfile : (Store.file file).entries = .ok fields := hentries
  exact load_renewed ids hs hfile (SettingsFile.entries_ofEntries (normal_saved h hs))

theorem load_file (ids : List Text) (h : file.Rewritable) :
    ∃ s file', load ids (.file file) = (s, .file file') ∧ file'.Rewritable ∧
      (file'.HoldsObject ↔ file.HoldsObject) := by
  obtain ⟨_, -, hload⟩ | ⟨_, _, -, -, hload⟩ | ⟨fields, hfields, -, hload⟩ :=
    load_file_cases ids file
  · exact ⟨_, file, hload, h, Iff.rfl⟩
  · exact ⟨_, file, hload, h, Iff.rfl⟩
  · have hnormal := normal_saved (h fields hfields) (s := usual ids) Script.Limits.storable_usual
    refine ⟨_, _, hload, SettingsFile.rewritable_ofEntries hnormal, ?_⟩
    exact iff_of_true (SettingsFile.holdsObject_ofEntries hnormal)
      ((SettingsFile.holdsObject_iff file).mpr ⟨fields, hfields⟩)

end Settings

end CopyFormat
