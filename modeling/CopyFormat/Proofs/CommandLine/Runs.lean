import CopyFormat.CommandLine.Run
import CopyFormat.Proofs.Preset.Changes
import CopyFormat.Proofs.Settings.Load
import CopyFormat.Proofs.Text.Split

/-!
Runs of the program over one settings file, one after the other, show what a registry shows that
is built once and then kept in memory.
-/

namespace CopyFormat.CommandLine

variable {s : Surroundings} {file : SettingsFile} {settings : Settings}

/-! ### Listings -/

def listed (r : Registry) (all : Bool) : List Preset := if all then r.presets else r.active

def origin : Preset → Text
  | .builtin _ => Text.lit "built-in"
  | .custom _ => Text.lit "custom"

def standing (r : Registry) (p : Preset) : Text :=
  if p.id ∈ r.settings.enabledPresets then Text.lit "enabled" else Text.lit "disabled"

/-- The columns of the line for a preset. Only a listing of all presets has more than two. -/
def columns (r : Registry) (all : Bool) (p : Preset) : List Text :=
  p.id :: (p.icon ++ Text.lit " " ++ p.name) ::
    if all then [origin p ++ Text.lit ", " ++ standing r p, p.description] else []

theorem shortLine_eq (r : Registry) (p : Preset) :
    shortLine p = line (Text.join ['\t'] (columns r false p)) := by
  simp [shortLine, columns, Text.join_cons_cons, Text.join_singleton, Text.lit]

theorem longLine_eq (r : Registry) (p : Preset) :
    longLine r p = line (Text.join ['\t'] (columns r true p)) := by
  have horigin : (if p.isBuiltin then "built-in" else "custom").toList = origin p := by
    cases p <;> rfl
  have hstanding : (if r.isEnabled p.id then "enabled" else "disabled").toList = standing r p := by
    rw [Registry.isEnabled, apply_ite String.toList]
    simp only [List.contains_iff_mem]
    rfl
  rw [longLine, horigin, hstanding]
  simp [columns, Text.join_cons_cons, Text.join_singleton, Text.lit]

theorem listing_eq (r : Registry) (all : Bool) :
    listing r all =
      (listed r all).flatMap fun p => line (Text.join ['\t'] (columns r all p)) := by
  cases all with
  | false => exact List.flatMap_congr fun p _ => shortLine_eq r p
  | true => exact List.flatMap_congr fun p _ => longLine_eq r p

/-! ### Calls and sessions -/

def Command.change? (s : Surroundings) : Command → Option Registry.Change
  | .addFormat f => some (.add { f with id := s.freshId })
  | .removeFormat id => some (.remove id)
  | .toggle id => some (.toggle id)
  | .order ids => some (.setOrder ids)
  | _ => none

/-- A run that is asked for. -/
structure Call where
  surroundings : Surroundings
  args : List Text

namespace Call

def run (c : Call) (file : SettingsFile) : Outcome := CommandLine.run c.surroundings file c.args

def Asks (c : Call) (command : Command) : Prop :=
  ∃ verbose, Invocation.parse c.args = .ok { verbose, command }

def change? (c : Call) : Option Registry.Change :=
  match Invocation.parse c.args with
  | .ok i => i.command.change? c.surroundings
  | .error _ => none

def refusal (c : Call) (e : PresetError) : Text :=
  line (c.surroundings.program ++ ':' :: ' ' :: e.message)

end Call

structure Session where
  file : SettingsFile
  registry : Registry

namespace Session

/-- The registry is built from the settings in the file. -/
def start (file : SettingsFile) : Session :=
  { file, registry := .ofSettings (loadSettings file).1 }

/-- The program runs over the file, and the registry takes the change if the run ends well. -/
def advance (x : Session) (c : Call) : Session :=
  { file := (c.run x.file).file
    registry :=
      match c.change? with
      | some change =>
          if (c.run x.file).exit = 0 then x.registry.after change else x.registry
      | none => x.registry }

/-- A run over the file shows what the registry would show. -/
structure Agrees (x : Session) (c : Call) : Prop where
  list : ∀ all, c.Asks (.list all) →
    (c.run x.file).exit = 0 ∧ (c.run x.file).output = listing x.registry all ∧
      (c.run x.file).errors = []
  list_line : ∀ all, c.Asks (.list all) → (c.run x.file).output =
    (listed x.registry all).flatMap fun p =>
      line (Text.join ['\t'] (columns x.registry all p))
  copy : ∀ id page p, c.Asks (.copy id page) → x.registry.get? id = some p →
    let formatted := p.apply x.registry.settings.engine c.surroundings.toCircumstances page
    (c.run x.file).exit = 0 ∧ (c.run x.file).output = line formatted.text ∧
      (c.run x.file).errors = formatted.diagnostics.flatMap fun d =>
        line (Text.lit "warning: " ++ d.text)
  copy_unknown : ∀ id page, c.Asks (.copy id page) → x.registry.get? id = none →
    (c.run x.file).exit = 1 ∧ (c.run x.file).output = [] ∧
      (c.run x.file).errors = c.refusal (.unknownPreset id)
  refused : ∀ change e, c.change? = some change → change.apply x.registry = .error e →
    (c.run x.file).exit = 1 ∧ (c.run x.file).output = [] ∧ (c.run x.file).errors = c.refusal e
  exit_eq_zero_iff : ∀ change, c.change? = some change →
    ((c.run x.file).exit = 0 ↔ (∃ r, change.apply x.registry = .ok r) ∧ x.file.HoldsObject)

end Session

/-! ### Loading -/

theorem load_eq (file : SettingsFile) :
    Settings.load builtinIds (.file file) =
      ((loadSettings file).1, .file (loadSettings file).2) := by
  obtain ⟨_, -, hload⟩ | ⟨_, _, -, -, hload⟩ | ⟨_, -, -, hload⟩ :=
    Settings.load_file_cases builtinIds file
  all_goals rw [loadSettings, hload]

theorem loadSettings_eq_of_load {file' : SettingsFile}
    (h : Settings.load builtinIds (.file file) = (settings, .file file')) :
    loadSettings file = (settings, file') := by
  rw [loadSettings, h]

theorem loadSettings_again (file : SettingsFile) :
    loadSettings (loadSettings file).2 = loadSettings file := by
  have hagain := Settings.load_again builtinIds (.file file)
  rw [load_eq file] at hagain
  exact loadSettings_eq_of_load hagain

theorem loadSettings_file (h : file.Rewritable) :
    (loadSettings file).2.Rewritable ∧ ((loadSettings file).2.HoldsObject ↔ file.HoldsObject) := by
  obtain ⟨_, file', hload, hrewritable, hiff⟩ := Settings.load_file builtinIds h
  rw [loadSettings_eq_of_load hload]
  exact ⟨hrewritable, hiff⟩

theorem storable_loadSettings (file : SettingsFile) : (loadSettings file).1.engine.Storable := by
  have hstorable := Settings.storable_load builtinIds (.file file)
  rwa [load_eq] at hstorable

/-! ### Single runs -/

theorem Call.run_eq {c : Call} {command : Command} (h : c.Asks command)
    (huses : command.usesSettings = true) (file : SettingsFile) :
    c.run file = outcome c.surroundings (loadSettings file).2
      (command.perform c.surroundings (loadSettings file).1 (loadSettings file).2) := by
  obtain ⟨verbose, hparse⟩ := h
  rw [Call.run, CommandLine.run, hparse]
  simp only [huses, if_true]

theorem Call.asks_of_change? {c : Call} {change : Registry.Change} (h : c.change? = some change) :
    ∃ command, c.Asks command ∧ command.change? c.surroundings = some change := by
  unfold Call.change? at h
  split at h
  · rename_i i hparse
    exact ⟨i.command, ⟨i.verbose, hparse⟩, h⟩
  · cases h

theorem Command.usesSettings_of_change? {command : Command} {change : Registry.Change}
    (h : command.change? s = some change) : command.usesSettings = true := by
  cases command <;> first | rfl | cases h

theorem Command.exists_act {command : Command} {change : Registry.Change}
    (h : command.change? s = some change) :
    ∃ act : Registry → Except PresetError (Registry × Text),
      (∀ r, (act r).map Prod.fst = change.apply r) ∧
        ∀ settings file, command.perform s settings file =
          CommandLine.change s.path settings file act := by
  have hfst : ∀ {α : Type} (x : Except PresetError α) (f : α → Registry × Text),
      (x.map f).map Prod.fst = x.map fun a => (f a).1 := by
    intro α x f
    cases x <;> rfl
  have hid : ∀ x : Except PresetError Registry, (x.map fun r => r) = x := by
    intro x
    cases x <;> rfl
  cases command with
  | addFormat f =>
      cases h
      refine ⟨fun r => (r.add { f with id := s.freshId }).map fun r => (r, line s.freshId), ?_, ?_⟩
      · exact fun r => (hfst _ _).trans (hid _)
      · exact fun _ _ => rfl
  | removeFormat id =>
      cases h
      refine ⟨fun r => (r.remove id).map fun p => (p.1, []), ?_, ?_⟩
      · exact fun r => hfst _ _
      · exact fun _ _ => rfl
  | toggle id =>
      cases h
      refine ⟨fun r => (r.toggle id).map fun p =>
        (p.1, line (id ++ ' ' :: Text.lit (if p.2 then "enabled" else "disabled"))), ?_, ?_⟩
      · exact fun r => hfst _ _
      · exact fun _ _ => rfl
  | order ids =>
      cases h
      refine ⟨fun r => (r.setOrder ids).map fun r => (r, []), ?_, ?_⟩
      · exact fun r => (hfst _ _).trans (hid _)
      · exact fun _ _ => rfl
  | _ => cases h

/-- All that a run can do which asks for a change: the registry of the loaded settings refuses the
change, or it is made and saved, or the file cannot be changed. -/
theorem Call.change_cases {c : Call} {change : Registry.Change} (h : c.change? = some change)
    (file : SettingsFile) :
    (∃ e, change.apply (.ofSettings (loadSettings file).1) = .error e ∧ c.run file =
      { exit := 1, output := [], errors := c.refusal e, file := (loadSettings file).2 }) ∨
    (∃ r output fields, change.apply (.ofSettings (loadSettings file).1) = .ok r ∧
      (loadSettings file).2.entries = .ok fields ∧ c.run file =
        { exit := 0
          output
          errors := []
          file := .ofEntries (Json.setField Settings.storeKey r.settings.toJson fields) }) ∨
    (∃ r e errors, change.apply (.ofSettings (loadSettings file).1) = .ok r ∧
      (loadSettings file).2.entries = .error e ∧ c.run file =
        { exit := 1, output := [], errors, file := (loadSettings file).2 }) := by
  obtain ⟨command, hasks, hchange⟩ := Call.asks_of_change? h
  obtain ⟨act, hact, hperform⟩ := Command.exists_act hchange
  have hrun := Call.run_eq hasks (Command.usesSettings_of_change? hchange) file
  rw [hperform, CommandLine.change] at hrun
  rw [← hact]
  cases hresult : act (.ofSettings (loadSettings file).1) with
  | error e =>
      rw [hresult] at hrun
      exact .inl ⟨e, rfl, hrun⟩
  | ok p =>
      obtain ⟨r, output⟩ := p
      rw [hresult] at hrun
      dsimp only at hrun
      cases hentries : (loadSettings file).2.entries with
      | ok fields =>
          rw [Settings.save_of_entries r.settings hentries] at hrun
          exact .inr (.inl ⟨r, output, fields, rfl, rfl, hrun⟩)
      | error e =>
          rw [Settings.save_of_error r.settings hentries] at hrun
          exact .inr (.inr ⟨r, e, _, rfl, rfl, hrun⟩)

theorem Command.file_eq {command : Command} (h : command.change? s = none) :
    (outcome s file (command.perform s settings file)).file = file := by
  cases command with
  | help => rfl
  | version => rfl
  | list all => rfl
  | copy id page =>
      rw [Command.perform]
      split <;> rfl
  | format f page => rfl
  | eval source page =>
      rw [Command.perform]
      split <;> rfl
  | _ => cases h

theorem Call.file_of_no_change {c : Call} (h : c.change? = none) (file : SettingsFile) :
    (c.run file).file = file ∨ (c.run file).file = (loadSettings file).2 := by
  rw [Call.change?] at h
  rw [Call.run, CommandLine.run]
  split at h
  · rename_i i hparse
    rw [hparse]
    dsimp only
    split
    · exact .inr (Command.file_eq h)
    · exact .inl (Command.file_eq h)
  · rename_i e hparse
    rw [hparse]
    exact .inl rfl

/-! ### Sessions -/

namespace Session

variable {x : Session} {c : Call}

/-- The registry in memory is the one that the next run builds from the file, and the file can be
written again. -/
structure Synchronous (x : Session) : Prop where
  loaded : (loadSettings x.file).1 = x.registry.settings
  rebuilt : Registry.ofSettings x.registry.settings = x.registry
  rewritable : x.file.Rewritable

theorem start_synchronous (h : file.HasIntegers) : (start file).Synchronous where
  loaded := by rw [start, Registry.ofSettings_settings]
  rebuilt := by rw [start, Registry.ofSettings_settings]
  rewritable := h.rewritable

theorem Synchronous.load (hx : x.Synchronous) :
    Synchronous { x with file := (loadSettings x.file).2 } where
  loaded := by
    rw [loadSettings_again]
    exact hx.loaded
  rebuilt := hx.rebuilt
  rewritable := (loadSettings_file hx.rewritable).1

theorem Synchronous.save {r : Registry} {fields : Json.Fields}
    (hentries : file.entries = .ok fields) (hr : Registry.ofSettings r.settings = r)
    (hengine : r.settings.engine.Storable)
    (hfields : Json.Normal Json.Number.IsInteger Json.nestingLimit (.object fields)) :
    Synchronous
      { file := .ofEntries (Json.setField Settings.storeKey r.settings.toJson fields)
        registry := r } where
  loaded := by
    have hload := Settings.load_saved builtinIds hentries hfields hengine
    rw [loadSettings_eq_of_load hload]
  rebuilt := hr
  rewritable := SettingsFile.rewritable_ofEntries (Settings.normal_saved hfields hengine)

theorem Synchronous.storable_after (hx : x.Synchronous) (change : Registry.Change) :
    (x.registry.after change).settings.engine.Storable := by
  rw [Registry.after_engine, ← hx.loaded]
  exact storable_loadSettings x.file

theorem Synchronous.change_cases (hx : x.Synchronous) {change : Registry.Change}
    (h : c.change? = some change) :
    (∃ e, change.apply x.registry = .error e ∧ c.run x.file =
      { exit := 1, output := [], errors := c.refusal e, file := (loadSettings x.file).2 }) ∨
    (∃ output saved, (∃ r, change.apply x.registry = .ok r) ∧ x.file.HoldsObject ∧
      saved.HoldsObject ∧ Synchronous { file := saved, registry := x.registry.after change } ∧
      c.run x.file = { exit := 0, output, errors := [], file := saved }) ∨
    ((∃ r, change.apply x.registry = .ok r) ∧ ¬x.file.HoldsObject ∧ ∃ errors, c.run x.file =
      { exit := 1, output := [], errors, file := (loadSettings x.file).2 }) := by
  have hobject := (loadSettings_file hx.rewritable).2
  have hcases := c.change_cases h x.file
  rw [SettingsFile.holdsObject_iff] at hobject
  rw [hx.loaded, hx.rebuilt] at hcases
  obtain ⟨e, hregistry, hrun⟩ | ⟨r, output, fields, hregistry, hentries, hrun⟩ |
    ⟨r, e, errors, hregistry, hentries, hrun⟩ := hcases
  · exact .inl ⟨e, hregistry, hrun⟩
  · have hafter : x.registry.after change = r := by rw [Registry.after, hregistry]
    have hfields := hx.load.rewritable fields hentries
    have hengine := hx.storable_after change
    have hrebuilt := Registry.ofSettings_after hx.rebuilt change
    rw [hafter] at hengine hrebuilt
    refine .inr (.inl ⟨output, _, ⟨r, hregistry⟩, hobject.mp ⟨fields, hentries⟩, ?_, ?_, hrun⟩)
    · exact SettingsFile.holdsObject_ofEntries (Settings.normal_saved hfields hengine)
    · rw [hafter]
      exact .save hentries hrebuilt hengine hfields
  · refine .inr (.inr ⟨⟨r, hregistry⟩, ?_, errors, hrun⟩)
    rw [← hobject, hentries]
    rintro ⟨fields, hfields⟩
    cases hfields

/-- A run keeps the file and the registry together, and no run makes a file usable that was not,
or the other way round. -/
theorem Synchronous.advance (hx : x.Synchronous) (c : Call) :
    (x.advance c).Synchronous ∧ ((x.advance c).file.HoldsObject ↔ x.file.HoldsObject) := by
  have hobject := (loadSettings_file hx.rewritable).2
  rw [Session.advance]
  cases hchange : c.change? with
  | none =>
      rcases c.file_of_no_change hchange x.file with hfile | hfile
      · rw [hfile]
        exact ⟨hx, Iff.rfl⟩
      · rw [hfile]
        exact ⟨hx.load, hobject⟩
  | some change =>
      obtain ⟨e, -, hrun⟩ | ⟨_, saved, -, hfile, hsaved, hsync, hrun⟩ |
        ⟨-, -, _, hrun⟩ := hx.change_cases hchange
      · rw [hrun]
        exact ⟨hx.load, hobject⟩
      · rw [hrun]
        exact ⟨hsync, iff_of_true hsaved hfile⟩
      · rw [hrun]
        exact ⟨hx.load, hobject⟩

theorem Synchronous.foldl_advance (hx : x.Synchronous) (calls : List Call) :
    (calls.foldl Session.advance x).Synchronous ∧
      ((calls.foldl Session.advance x).file.HoldsObject ↔ x.file.HoldsObject) := by
  induction calls generalizing x with
  | nil => exact ⟨hx, Iff.rfl⟩
  | cons c calls ih =>
      obtain ⟨hnext, hobject⟩ := hx.advance c
      obtain ⟨hlast, hobjects⟩ := ih hnext
      exact ⟨hlast, hobjects.trans hobject⟩

theorem Synchronous.agrees (hx : x.Synchronous) (c : Call) : x.Agrees c where
  list := by
    intro all hasks
    rw [Call.run_eq hasks rfl, Command.perform, hx.loaded, hx.rebuilt]
    exact ⟨rfl, rfl, rfl⟩
  list_line := by
    intro all hasks
    rw [Call.run_eq hasks rfl, Command.perform, hx.loaded, hx.rebuilt, ← listing_eq]
    rfl
  copy := by
    intro id page p hasks hget
    rw [Call.run_eq hasks rfl, Command.perform, hx.loaded, hx.rebuilt, hget]
    exact ⟨rfl, rfl, rfl⟩
  copy_unknown := by
    intro id page hasks hget
    rw [Call.run_eq hasks rfl, Command.perform, hx.loaded, hx.rebuilt, hget]
    exact ⟨rfl, rfl, rfl⟩
  refused := by
    intro change e hchange hrefused
    obtain ⟨_, happly, hrun⟩ | ⟨_, _, ⟨_, happly⟩, -⟩ | ⟨⟨_, happly⟩, -⟩ := hx.change_cases hchange
    · rw [hrefused] at happly
      cases happly
      rw [hrun]
      exact ⟨rfl, rfl, rfl⟩
    · rw [hrefused] at happly
      cases happly
    · rw [hrefused] at happly
      cases happly
  exit_eq_zero_iff := by
    intro change hchange
    obtain ⟨e, happly, hrun⟩ | ⟨_, _, happly, hfile, -, -, hrun⟩ |
      ⟨-, hfile, _, hrun⟩ := hx.change_cases hchange
    · rw [hrun, happly]
      simp
    · rw [hrun]
      exact iff_of_true rfl ⟨happly, hfile⟩
    · rw [hrun]
      simp [hfile]

end Session

/-- Whatever is called over one settings file, every run shows what the registry would show that is
built from the file at the start and then kept in memory. Runs neither spoil the file nor mend
it. -/
theorem runs_agree (h : file.HasIntegers) (calls : List Call) (c : Call) :
    let x := calls.foldl Session.advance (.start file)
    x.Agrees c ∧ (x.file.HoldsObject ↔ file.HoldsObject) := by
  obtain ⟨hx, hobject⟩ := (Session.start_synchronous h).foldl_advance calls
  exact ⟨hx.agrees c, hobject⟩

/-- A file with a number in it that is not a setting. -/
def numbered : SettingsFile := .text (Text.lit "\x7b\"n\": -7\x7d")

def earlyCall (args : List String) : Call where
  surroundings :=
    { program := Text.lit "copytab"
      path := Text.lit "settings.json"
      now := Date.Moment.ofTimestamp 0 0 0
      freshId := ['0'] }
  args := args.map String.toList

theorem numbered_hasIntegers : numbered.HasIntegers := by
  have hparse : Json.parse (Text.lit "\x7b\"n\": -7\x7d") =
      some (.object [(['n'], .number (.whole (-7)))]) := rfl
  refine SettingsFile.hasIntegers_text hparse fun n hn => ?_
  obtain rfl : n = .whole (-7) := by simpa using hn
  exact ⟨by decide, by decide⟩

theorem runs_agree_ordered :
    let calls := [["toggle", "html-format"], ["order", "html-format,markdown-format"]].map earlyCall
    let x := calls.foldl Session.advance (.start numbered)
    let c := earlyCall ["list"]
    numbered.HasIntegers ∧ (x.Agrees c ∧ (x.file.HoldsObject ↔ numbered.HoldsObject)) ∧
      (c.run x.file).output = Text.lit "markdown-format\t📝 Markdown link\n" := by
  intro calls x c
  exact ⟨numbered_hasIntegers, runs_agree numbered_hasIntegers calls c, by decide +kernel⟩

end CopyFormat.CommandLine
