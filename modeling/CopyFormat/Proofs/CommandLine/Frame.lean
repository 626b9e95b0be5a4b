import CopyFormat.Proofs.CommandLine.Runs

/-!
What a run leaves alone. Only a change that is asked for and made touches the settings in a file,
but that a run which looks at the settings gives the usual ones to a file that can be read and has
none.
-/

namespace CopyFormat

open Json

/-- Whether the file can be read and has no settings. -/
def SettingsFile.LacksSettings (file : SettingsFile) : Prop :=
  ∃ fields, file.Holds fields ∧ field? Settings.storeKey fields = none

namespace CommandLine

variable {s : Surroundings} {file : SettingsFile} {fields : Fields} {c : Call}

/-- Whether a command asks for nothing but to be shown something. -/
def Command.Shows : Command → Prop
  | .help | .version | .list _ | .copy _ _ | .format _ _ | .eval _ _ => True
  | .addFormat _ | .removeFormat _ | .toggle _ | .order _ => False

theorem Command.change?_eq_none_iff {command : Command} :
    command.change? s = none ↔ command.Shows := by
  cases command <;> simp [Command.change?, Command.Shows]

namespace Call

/-- Whether the run over the file fails or only shows something. -/
def Idle (c : Call) (file : SettingsFile) : Prop :=
  (c.run file).exit ≠ 0 ∨ ∃ command, c.Asks command ∧ command.Shows

/-- Whether the run looks at the settings: its arguments can be read and ask for neither help nor
version. -/
def Loads (c : Call) : Prop :=
  ∃ command, c.Asks command ∧ command ≠ .help ∧ command ≠ .version

theorem run_of_misread (h : ∀ command, ¬c.Asks command) (file : SettingsFile) :
    (c.run file).file = file := by
  cases hparse : Invocation.parse c.args with
  | ok i => exact absurd ⟨i.verbose, hparse⟩ (h i.command)
  | error e => rw [Call.run, CommandLine.run, hparse]

theorem run_of_not_loads (h : ¬c.Loads) (file : SettingsFile) : (c.run file).file = file := by
  by_cases hasks : ∃ command, c.Asks command
  · obtain ⟨command, verbose, hparse⟩ := hasks
    rw [Call.run, CommandLine.run, hparse]
    by_cases hhelp : command = .help
    · rw [hhelp]
      rfl
    · by_cases hversion : command = .version
      · rw [hversion]
        rfl
      · exact absurd ⟨command, ⟨verbose, hparse⟩, hhelp, hversion⟩ h
  · exact run_of_misread (not_exists.mp hasks) file

theorem outcome_file_of_exit {ran : Ran} (h : (outcome s file ran).exit ≠ 0) :
    (outcome s file ran).file = file := by
  cases ran with
  | ok p => exact absurd rfl h
  | error e => rfl

theorem Asks.unique {a b : Command} (ha : c.Asks a) (hb : c.Asks b) : a = b := by
  obtain ⟨_, ha⟩ := ha
  obtain ⟨_, hb⟩ := hb
  rw [ha] at hb
  cases hb
  rfl

theorem Idle.file_eq (h : c.Idle file) (hloads : c.Loads) :
    (c.run file).file = (loadSettings file).2 := by
  obtain ⟨command, hasks, hhelp, hversion⟩ := hloads
  have huses : command.usesSettings = true := by
    cases command <;> first | rfl | contradiction
  rw [Idle, run_eq hasks huses] at h
  rw [run_eq hasks huses]
  -- A run that fails keeps the file it was given, which is the loaded one.
  rcases h with hexit | ⟨shown, hshown, hshows⟩
  · exact outcome_file_of_exit hexit
  · cases hasks.unique hshown
    exact Command.file_eq (Command.change?_eq_none_iff.mpr hshows)

end Call

theorem loadSettings_file_of_holds (hholds : file.Holds fields)
    (hnone : field? Settings.storeKey fields = none) :
    (loadSettings file).2 =
      .ofEntries (setField Settings.storeKey (Settings.usual builtinIds).toJson fields) := by
  have hentries := SettingsFile.holds_iff.mp hholds
  obtain ⟨_, herror, -⟩ | ⟨_, _, hok, hsome, -⟩ | ⟨_, hok, -, hload⟩ :=
    Settings.load_file_cases builtinIds file
  · rw [hentries] at herror
    cases herror
  · rw [hentries] at hok
    cases hok
    rw [hnone] at hsome
    cases hsome
  · rw [hentries] at hok
    cases hok
    rw [loadSettings_eq_of_load hload]

theorem loadSettings_file_of_not_lacks (h : ¬file.LacksSettings) :
    (loadSettings file).2 = file := by
  obtain ⟨_, -, hload⟩ | ⟨_, _, -, -, hload⟩ | ⟨fields, hok, hnone, -⟩ :=
    Settings.load_file_cases builtinIds file
  · rw [loadSettings_eq_of_load hload]
  · rw [loadSettings_eq_of_load hload]
  · exact absurd ⟨fields, SettingsFile.holds_iff.mpr hok, hnone⟩ h

/-- What becomes of the settings file in a run that changes nothing: it stays as it is, or is given
the usual settings once and keeps all its other values. -/
structure Framed (c : Call) (file : SettingsFile) : Prop where
  misread : (∀ command, ¬c.Asks command) → (c.run file).file = file
  kept : c.Idle file → ¬(c.Loads ∧ file.LacksSettings) → (c.run file).file = file
  given : c.Idle file → c.Loads → ∀ fields, file.Holds fields →
    field? Settings.storeKey fields = none →
      (c.run file).file =
        .ofEntries (setField Settings.storeKey (Settings.usual builtinIds).toJson fields)
  others : c.Idle file → c.Loads → file.HasIntegers → ∀ fields, file.Holds fields →
    field? Settings.storeKey fields = none →
      ∃ fields', (c.run file).file.Holds fields' ∧
        field? Settings.storeKey fields' = some (Settings.usual builtinIds).toJson ∧
          ∀ key ≠ Settings.storeKey, field? key fields' = field? key fields
  settled : c.Idle file → c.Loads → ∀ next : Call, next.Idle (c.run file).file →
    (next.run (c.run file).file).file = (c.run file).file

/-- Whatever is called over whatever file, nothing but a change that is made touches the
settings. -/
theorem run_framed (c : Call) (file : SettingsFile) : Framed c file where
  misread := fun h => Call.run_of_misread h file
  kept := by
    intro hidle hkept
    by_cases hloads : c.Loads
    · rw [hidle.file_eq hloads]
      exact loadSettings_file_of_not_lacks fun hlacks => hkept ⟨hloads, hlacks⟩
    · exact Call.run_of_not_loads hloads file
  given := by
    intro hidle hloads fields hholds hnone
    rw [hidle.file_eq hloads]
    exact loadSettings_file_of_holds hholds hnone
  others := by
    intro hidle hloads hintegers fields hholds hnone
    refine ⟨setField Settings.storeKey (Settings.usual builtinIds).toJson fields, ?_,
      field?_setField_self .., fun key hkey => field?_setField_of_ne hkey.symm ..⟩
    rw [hidle.file_eq hloads, loadSettings_file_of_holds hholds hnone, SettingsFile.holds_iff]
    exact SettingsFile.entries_ofEntries
      (Settings.normal_saved (hholds.normal hintegers) Script.Limits.storable_usual)
  settled := by
    intro hidle hloads next hnext
    rw [hidle.file_eq hloads] at hnext ⊢
    -- What has been loaded once is not changed by loading it again.
    by_cases hagain : next.Loads
    · rw [hnext.file_eq hagain, loadSettings_again]
    · exact Call.run_of_not_loads hagain _

/-- A run that fails over a file without settings. -/
theorem run_framed_refused :
    let c := earlyCall ["remove-format", "0"]
    (c.run numbered).exit = 1 ∧ c.Idle numbered ∧ c.Loads ∧ numbered.LacksSettings ∧
      Framed c numbered := by
  intro c
  have hexit : (c.run numbered).exit = 1 := by decide +kernel
  exact ⟨hexit, .inl (by simp [hexit]), ⟨.removeFormat ['0'], ⟨false, rfl⟩, by simp, by simp⟩,
    ⟨_, .object rfl rfl, rfl⟩, run_framed c numbered⟩

end CommandLine

end CopyFormat
