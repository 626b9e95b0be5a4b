import CopyFormat.Proofs.CommandLine.Frame
import CopyFormat.Proofs.Settings.Persistence

/-!
What becomes of stored custom formats in a run that does not remove one. They stay where they are
if the settings around them can be read. If another field of the settings cannot be read, none of
the stored settings count, and the first change that is saved puts the usual ones in their place.
-/

namespace CopyFormat

open Json

/-! ### Files with formats -/

namespace SettingsFile

variable {file : SettingsFile} {fields settings : Fields} {formats : List CustomFormat}

/-- The file has an object of settings, in which these formats are stored and no others. -/
def StoresFormats (file : SettingsFile) (settings : Fields) (formats : List CustomFormat) : Prop :=
  ∃ fields stored, file.Holds fields ∧
    field? Settings.storeKey fields = some (.object settings) ∧
      field? (Text.lit "customFormats") settings = some stored ∧
        IsList CustomFormat.Form stored formats

theorem isList_unique {stored : Json} {formats' : List CustomFormat}
    (h : IsList CustomFormat.Form stored formats) (h' : IsList CustomFormat.Form stored formats') :
    formats = formats' := by
  rw [← Decoder.list_eq_some_iff CustomFormat.ofJson?_eq_some_iff] at h h'
  rw [h] at h'
  exact Option.some.inj h'

theorem StoresFormats.unique {settings' : Fields} {formats' : List CustomFormat}
    (h : file.StoresFormats settings formats) (h' : file.StoresFormats settings' formats') :
    settings = settings' ∧ formats = formats' := by
  obtain ⟨fields, stored, hholds, hsettings, hstored, hformats⟩ := h
  obtain ⟨fields', stored', hholds', hsettings', hstored', hformats'⟩ := h'
  cases hholds.unique hholds'
  rw [hsettings] at hsettings'
  cases hsettings'
  rw [hstored] at hstored'
  cases hstored'
  exact ⟨rfl, isList_unique hformats hformats'⟩

/-- The formats that are left in a file: they are in the text that has been written, and they are
read from it if it can be read, as it can if all numbers in the file before are read back. -/
structure LeavesFormats (file file' : SettingsFile) (formats : List CustomFormat) : Prop where
  written : file' = file ∨ ∃ fields settings, file' = ofEntries fields ∧
    field? Settings.storeKey fields = some (.object settings) ∧
      field? (Text.lit "customFormats") settings =
        some (.array (formats.map CustomFormat.toJson))
  stored : ∀ fields, file'.Holds fields → ∃ settings, file'.StoresFormats settings formats
  readable : file.Rereadable → ∃ fields, file'.Holds fields

theorem isList_toJson (formats : List CustomFormat) :
    IsList CustomFormat.Form (.array (formats.map CustomFormat.toJson)) formats := by
  rw [← Decoder.list_eq_some_iff CustomFormat.ofJson?_eq_some_iff]
  exact Decoder.list_map fun f _ => f.ofJson?_toJson

theorem leavesFormats_saved {s : Settings} (hs : s.engine.Storable)
    (hentries : file.entries = .ok fields) :
    LeavesFormats file (ofEntries (setField Settings.storeKey s.toJson fields))
      s.customFormats := by
  have hfile : (Store.file file).entries = .ok fields := hentries
  have hformats : field? (Text.lit "customFormats") s.toFields =
      some (.array (s.customFormats.map CustomFormat.toJson)) := by rfl
  refine ⟨.inr ⟨_, s.toFields, rfl, field?_setField_self .., hformats⟩, ?_, ?_⟩
  · intro fields' hholds
    exact ⟨s.toFields, fields', _, hholds,
      Settings.field?_of_saved hs hfile (holds_iff.mp hholds), hformats, isList_toJson _⟩
  · intro hreread
    have hstore : (Store.file file).Rereadable := hreread
    obtain ⟨fields', hfields'⟩ :=
      hstore.exists_entries_renewed Settings.storeKey hfile (Settings.rereadable_toJson hs)
    exact ⟨fields', holds_iff.mpr hfields'⟩

theorem StoresFormats.leavesFormats (h : file.StoresFormats settings formats) :
    LeavesFormats file file formats where
  written := .inl rfl
  stored := fun _ _ => ⟨settings, h⟩
  readable := by
    obtain ⟨fields, _, hholds, -⟩ := h
    exact fun _ => ⟨fields, hholds⟩

end SettingsFile

/-! ### Changes -/

def Registry.Change.added : Registry.Change → List CustomFormat
  | .add f => [f]
  | _ => []

theorem Registry.Change.customFormats_of_apply {r r' : Registry} {change : Registry.Change}
    (h : change.apply r = .ok r') (hkeep : ∀ id, change ≠ .remove id) :
    r'.settings.customFormats = r.settings.customFormats ++ change.added := by
  cases change with
  | toggle id =>
      obtain ⟨⟨r₁, shown⟩, htoggle, rfl⟩ := exists_of_map_eq_ok h
      rw [(Registry.toggle_eq_ok htoggle).2.2]
      exact (List.append_nil _).symm
  | setOrder ids =>
      rw [(Registry.setOrder_eq_ok h).2]
      exact (List.append_nil _).symm
  | add f =>
      rw [(Registry.add_eq_ok h).2]
      rfl
  | remove id => exact absurd rfl (hkeep id)

namespace CommandLine

variable {file : SettingsFile} {c : Call} {fields settings : Fields}
  {formats : List CustomFormat}

def Call.Changes (c : Call) : Prop := ∃ change, c.change? = some change

def Call.added (c : Call) : List CustomFormat := (c.change?.map Registry.Change.added).getD []

theorem Call.change?_ne_remove (h : ∀ id, ¬c.Asks (.removeFormat id)) (id : Text) :
    c.change? ≠ some (.remove id) := by
  intro hchange
  obtain ⟨command, hasks, hcommand⟩ := Call.asks_of_change? hchange
  cases command <;> cases hcommand
  exact h id hasks

/-! ### Loading -/

theorem loadSettings_of_stored {stored : Json} (hholds : file.Holds fields)
    (hstored : field? Settings.storeKey fields = some stored) :
    loadSettings file =
      ((Settings.overUsual? builtinIds stored).getD (.usual builtinIds), file) := by
  have hentries : (Store.file file).entries = .ok fields := SettingsFile.holds_iff.mp hholds
  apply loadSettings_eq_of_load
  rw [Settings.load, Store.get_of_entries hentries, hstored]

theorem loadSettings_of_storesFormats (h : file.StoresFormats settings formats) :
    (loadSettings file).2 = file ∧
      (¬Settings.Spoiled settings → (loadSettings file).1.customFormats = formats) ∧
      (Settings.Spoiled settings → (loadSettings file).1.customFormats = []) := by
  obtain ⟨fields, stored, hholds, hsettings, hstored, hformats⟩ := h
  have hformed : (Store.file file).Formed := trivial
  have hsorted : Sorted (Json.object settings).ownFields :=
    hformed.sorted_of_field? (SettingsFile.holds_iff.mp hholds) hsettings
  rw [loadSettings_of_stored hholds hsettings]
  -- The stored settings are read all together, so that one bad field costs the formats too.
  refine ⟨rfl, fun hsound => ?_, fun hspoiled => ?_⟩
  · obtain ⟨s, hs⟩ := (Settings.exists_overrides_iff builtinIds).mpr hsound
    have hloaded := hs.customFormats
    rw [hstored] at hloaded
    rw [(Settings.overUsual?_eq_some_iff hsorted).mpr hs]
    exact SettingsFile.isList_unique hloaded hformats
  · rw [(Settings.overUsual?_eq_none_iff hsorted).mpr hspoiled]
    rfl

/-! ### Runs -/

theorem file_of_shown (h : file.StoresFormats settings formats) (hchange : c.change? = none) :
    (c.run file).file = file := by
  rcases c.file_of_no_change hchange file with hfile | hfile
  · exact hfile
  · rw [hfile, (loadSettings_of_storesFormats h).1]

/-- A change that is made and removes nothing leaves the loaded formats and those that it adds. -/
theorem leavesFormats_of_change {change : Registry.Change} (hchange : c.change? = some change)
    (hkeep : ∀ id, change ≠ .remove id) (hexit : (c.run file).exit = 0)
    (hfile : (loadSettings file).2 = file)
    (hloaded : (loadSettings file).1.customFormats = formats) :
    SettingsFile.LeavesFormats file (c.run file).file (formats ++ change.added) := by
  obtain ⟨_, -, hrun⟩ | ⟨r, _, fields, happly, hentries, hrun⟩ | ⟨_, _, _, -, -, hrun⟩ :=
    c.change_cases hchange file
  · rw [hrun] at hexit
    cases hexit
  · have hengine : r.settings.engine = (loadSettings file).1.engine := by
      have hafter := Registry.after_engine (.ofSettings (loadSettings file).1) change
      rwa [Registry.after, happly, Registry.ofSettings_settings] at hafter
    have hformats := Registry.Change.customFormats_of_apply happly hkeep
    rw [Registry.ofSettings_settings, hloaded] at hformats
    rw [hfile] at hentries
    rw [hrun, ← hformats]
    refine SettingsFile.leavesFormats_saved ?_ hentries
    rw [hengine]
    exact storable_loadSettings file
  · rw [hrun] at hexit
    cases hexit

/-- A run that ends well and removes no format leaves the stored formats, in order and in front of
one that has been added, unless it has changed settings of which another field could not be read.
Then the stored formats are gone. -/
theorem formats_spared (hstores : file.StoresFormats settings formats)
    (hkeep : ∀ id, ¬c.Asks (.removeFormat id)) (hexit : (c.run file).exit = 0) :
    (¬(c.Changes ∧ Settings.Spoiled settings) →
      SettingsFile.LeavesFormats file (c.run file).file (formats ++ c.added)) ∧
    (c.Changes ∧ Settings.Spoiled settings →
      SettingsFile.LeavesFormats file (c.run file).file c.added) := by
  obtain ⟨hfile, hsound, hspoiled⟩ := loadSettings_of_storesFormats hstores
  cases hchange : c.change? with
  | none =>
      have hunchanged : ¬c.Changes := by simp [Call.Changes, hchange]
      refine ⟨fun _ => ?_, fun h => absurd h.1 hunchanged⟩
      rw [file_of_shown hstores hchange, Call.added, hchange]
      exact (List.append_nil formats).symm ▸ hstores.leavesFormats
  | some change =>
      have hchanges : c.Changes := ⟨change, hchange⟩
      have hne : ∀ id, change ≠ .remove id := by
        rintro id rfl
        exact Call.change?_ne_remove hkeep id hchange
      have hadded : c.added = change.added := by rw [Call.added, hchange]; rfl
      rw [hadded]
      constructor
      · intro h
        exact leavesFormats_of_change hchange hne hexit hfile
          (hsound fun hspoiled => h ⟨hchanges, hspoiled⟩)
      · rintro ⟨-, h⟩
        exact leavesFormats_of_change hchange hne hexit hfile (hspoiled h)

def plain : CustomFormat := { id := ['1'], name := ['n'], template := ['t'] }

def oneFormat (key : String) (value : Json) : Fields :=
  [(Text.lit "customFormats", .array [CustomFormat.toJson plain]), (key.toList, value)]

def oneFormatFile (key : String) (value : Json) : SettingsFile :=
  .ofEntries [(Settings.storeKey, .object (oneFormat key value))]

theorem sorted_oneFormat {key : String} {value : Json}
    (hkey : Text.order (Text.lit "customFormats") key.toList = .lt) :
    Sorted (oneFormat key value) :=
  List.pairwise_pair.mpr hkey

theorem storesFormats_oneFormat {key : String} {value : Json}
    (hkey : Text.order (Text.lit "customFormats") key.toList = .lt)
    (hvalue : Normal Number.IsInteger 2 value) :
    (oneFormatFile key value).StoresFormats (oneFormat key value) [plain] ∧
      (oneFormatFile key value).Rereadable := by
  have hformats : Normal Number.IsInteger 2 (.array [plain.toJson]) :=
    .array (List.forall_mem_singleton.mpr plain.normal_toJson)
  have hsettings : Normal Number.IsInteger 3 (.object (oneFormat key value)) :=
    .object (sorted_oneFormat hkey)
      (List.forall_mem_cons.mpr ⟨hformats, List.forall_mem_singleton.mpr hvalue⟩)
  have hnormal : Normal Number.IsInteger nestingLimit
      (.object [(Settings.storeKey, .object (oneFormat key value))]) :=
    .object (List.pairwise_singleton _ _)
      (List.forall_mem_singleton.mpr (hsettings.mono (by decide)))
  have hholds := SettingsFile.holds_iff.mpr (SettingsFile.entries_ofEntries hnormal)
  exact ⟨⟨_, _, hholds, rfl, rfl, SettingsFile.isList_toJson [plain]⟩, hholds.rereadable hnormal⟩

theorem formats_spared_ordered :
    let value := Json.texts [Text.lit "html-format"]
    let file := oneFormatFile "presetOrder" value
    let c := earlyCall ["toggle", "html-format"]
    (file.StoresFormats (oneFormat "presetOrder" value) [plain] ∧
      (∀ id, ¬c.Asks (.removeFormat id)) ∧ (c.run file).exit = 0) ∧
        ¬Settings.Spoiled (oneFormat "presetOrder" value) ∧ file.Rereadable ∧
          SettingsFile.LeavesFormats file (c.run file).file [plain] := by
  intro value file c
  obtain ⟨hstores, hreread⟩ : file.StoresFormats _ [plain] ∧ file.Rereadable :=
    storesFormats_oneFormat (by decide) ((normal_texts _).mono (by decide))
  have hkeep : ∀ id, ¬c.Asks (.removeFormat id) := by
    intro id hid
    have hasks : c.Asks (.toggle (Text.lit "html-format")) := ⟨false, rfl⟩
    cases hasks.unique hid
  have hexit : (c.run file).exit = 0 := by decide +kernel
  have hsound : ¬Settings.Spoiled (oneFormat "presetOrder" value) := by
    have hover : Settings.overUsual? [] (.object (oneFormat "presetOrder" value)) =
        some { presetOrder := [Text.lit "html-format"], customFormats := [plain] } := rfl
    have hsorted : Sorted (Json.object (oneFormat "presetOrder" value)).ownFields :=
      sorted_oneFormat (by decide)
    exact (Settings.exists_overrides_iff []).mp
      ⟨_, (Settings.overUsual?_eq_some_iff hsorted).mp hover⟩
  exact ⟨⟨hstores, hkeep, hexit⟩, hsound, hreread,
    (formats_spared hstores hkeep hexit).1 fun h => hsound h.2⟩

/-- Toggling a preset over settings of which another field cannot be read ends well, and the stored
format is gone. -/
theorem format_lost :
    let file := oneFormatFile "enabledPresets" (.number (.whole 5))
    let c := earlyCall ["toggle", "html-format"]
    (∃ settings, file.StoresFormats settings [plain]) ∧ (c.run file).exit = 0 ∧
      ¬∃ settings formats, (c.run file).file.StoresFormats settings formats ∧
        [plain].Sublist formats := by
  intro file c
  obtain ⟨hstores, hreread⟩ : file.StoresFormats _ [plain] ∧ file.Rereadable :=
    storesFormats_oneFormat (by decide) (.number ⟨by decide, by decide⟩)
  have hexit : (c.run file).exit = 0 := by decide +kernel
  have hspoiled : Settings.Spoiled (oneFormat "enabledPresets" (.number (.whole 5))) := by
    refine .inl ⟨_, rfl, fun a => ?_⟩
    rintro ⟨items, hitems, -⟩
    cases hitems
  obtain ⟨hfile, -, hnone⟩ := loadSettings_of_storesFormats hstores
  have hchange : c.change? = some (.toggle (Text.lit "html-format")) := rfl
  have hleaves := leavesFormats_of_change hchange (by simp) hexit hfile (hnone hspoiled)
  obtain ⟨fields, hholds⟩ := hleaves.readable hreread
  obtain ⟨settings, hafter⟩ := hleaves.stored fields hholds
  refine ⟨⟨_, hstores⟩, hexit, ?_⟩
  rintro ⟨settings', formats, hkept, hsublist⟩
  obtain ⟨-, rfl⟩ := hafter.unique hkept
  cases hsublist

end CommandLine

end CopyFormat
