import CopyFormat.CommandLine.Args
import CopyFormat.CommandLine.Help
import CopyFormat.Preset.Registry
import CopyFormat.Settings.Load

/-!
Running a command line over a settings file: what is printed, with which exit code the program
ends, and what becomes of the file. What is logged beside that is left out.
-/

namespace CopyFormat.CommandLine

/-- What a run takes from the outside, apart from its arguments and the settings file. -/
structure Surroundings extends Circumstances where
  program : Text
  path : Text
  /-- The id for a format that is added. -/
  freshId : Text

/-- What a run leaves behind. -/
structure Outcome where
  exit : Nat
  output : Text
  errors : Text
  file : SettingsFile

inductive RunError
  | script (e : Script.EvalError)
  | preset (e : PresetError)
  | save (path : Text) (e : StoreError)

def RunError.message : RunError → Text
  | .script e => e.message
  | .preset e => e.message
  | .save path e => Text.lit "failed to save settings to " ++ path ++ ':' :: ' ' :: e.message

def builtinIds : List Text := Builtin.all.map Builtin.id

/-- The settings in a file, and the file afterwards. -/
def loadSettings (file : SettingsFile) : Settings × SettingsFile :=
  match Settings.load builtinIds (.file file) with
  | (s, .file f) => (s, f)
  | (s, .memory _) => (s, file)

/-- What a command prints, and the file afterwards. -/
structure Printed where
  output : Text := []
  /-- What is told beside the output. -/
  warnings : Text := []
  file : SettingsFile

/-- A failure of a command leaves the file as loading has left it. -/
abbrev Ran := Except RunError Printed

def line (t : Text) : Text := t ++ ['\n']

def shortLine (p : Preset) : Text := line (p.id ++ '\t' :: p.icon ++ ' ' :: p.name)

/-- A line for any preset. -/
def longLine (r : Registry) (p : Preset) : Text :=
  let kind := if p.isBuiltin then "built-in" else "custom"
  let state := if r.isEnabled p.id then "enabled" else "disabled"
  line (p.id ++ '\t' :: p.icon ++ ' ' :: p.name ++ '\t' :: kind.toList ++ ',' :: ' ' ::
    state.toList ++ '\t' :: p.description)

def listing (r : Registry) (all : Bool) : Text :=
  if all then r.presets.flatMap (longLine r) else r.active.flatMap shortLine

/-- Prints a formatted text, with its failures beside it. -/
def emit (file : SettingsFile) (f : Formatted) : Printed :=
  { output := line f.text
    warnings := f.diagnostics.flatMap fun d => line (Text.lit "warning: " ++ d.text)
    file }

/-- Changes the registry and saves its settings. -/
def change (path : Text) (settings : Settings) (file : SettingsFile)
    (act : Registry → Except PresetError (Registry × Text)) : Ran :=
  match act (.ofSettings settings) with
  | .error e => .error (.preset e)
  | .ok (r, output) =>
      match r.settings.save (.file file) with
      | .ok (.file saved) => .ok { output, file := saved }
      | .ok (.memory _) => .ok { output, file }
      | .error e => .error (.save path e)

/-- Runs a command that uses the settings, once these are loaded. -/
def Command.perform (s : Surroundings) (settings : Settings) (file : SettingsFile) :
    Command → Ran
  | .help => .ok { output := CommandLine.help s.program, file }
  | .version => .ok { output := line (s.program ++ ' ' :: CommandLine.version), file }
  | .format f page => .ok (emit file (f.apply settings.engine s.toCircumstances page))
  | .eval source page =>
      match Script.evaluate settings.engine ((PageValues.ofPage page).context s.now) source with
      | .ok v => .ok { output := line v.display, file }
      | .error e => .error (.script e)
  | .list all => .ok { output := listing (.ofSettings settings) all, file }
  | .copy id page =>
      match (Registry.ofSettings settings).get? id with
      | none => .error (.preset (.unknownPreset id))
      | some p => .ok (emit file (p.apply settings.engine s.toCircumstances page))
  | .addFormat f =>
      change s.path settings file fun r =>
        (r.add { f with id := s.freshId }).map fun r => (r, line s.freshId)
  | .removeFormat id => change s.path settings file fun r => (r.remove id).map fun p => (p.1, [])
  | .toggle id =>
      change s.path settings file fun r =>
        (r.toggle id).map fun p =>
          (p.1, line (id ++ ' ' :: Text.lit (if p.2 then "enabled" else "disabled")))
  | .order ids => change s.path settings file fun r => (r.setOrder ids).map fun r => (r, [])

def Command.usesSettings : Command → Bool
  | .help | .version => false
  | _ => true

def outcome (s : Surroundings) (file : SettingsFile) : Ran → Outcome
  | .ok p => { exit := 0, output := p.output, errors := p.warnings, file := p.file }
  | .error e =>
      { exit := 1
        output := []
        errors := line (s.program ++ ':' :: ' ' :: e.message)
        file }

def run (s : Surroundings) (file : SettingsFile) (args : List Text) : Outcome :=
  match Invocation.parse args with
  | .error e =>
      { exit := 2
        output := []
        errors := line (s.program ++ ':' :: ' ' :: e.message) ++
          line (Text.lit "Run '" ++ s.program ++ Text.lit " help' for usage.")
        file }
  | .ok i =>
      if i.command.usesSettings then
        let (settings, file) := loadSettings file
        outcome s file (i.command.perform s settings file)
      else outcome s file (i.command.perform s {} file)

end CopyFormat.CommandLine
