import CopyFormat.Preset.Basic
import CopyFormat.Settings.Basic

/-!
The registry: all presets, with the settings that say which are shown and in what order. Every
change either succeeds and gives the new registry, or says why it is refused.
-/

namespace CopyFormat

inductive PresetError
  | missingField (field : Text)
  | duplicateId (id : Text)
  | rejected (e : Script.EvalError)
  | unknownPreset (id : Text)
  | builtinPreset (id : Text)
  deriving DecidableEq, Repr

def PresetError.message : PresetError → Text
  | .missingField field => Text.lit "preset is missing its " ++ field
  | .duplicateId id => Text.lit "a preset with id '" ++ id ++ Text.lit "' already exists"
  | .rejected e => Text.lit "preset script rejected: " ++ e.message
  | .unknownPreset id => Text.lit "unknown preset '" ++ id ++ ['\'']
  | .builtinPreset id => Text.lit "built-in preset '" ++ id ++ Text.lit "' cannot be removed"

/-- All presets and the settings. -/
@[ext]
structure Registry where
  presets : List Preset
  settings : Settings
  deriving DecidableEq, Repr

namespace Registry

def get? (r : Registry) (id : Text) : Option Preset := r.presets.find? fun p => p.id = id

/-- Why a custom format cannot be registered, if it cannot. -/
def fault? (r : Registry) (f : CustomFormat) : Option PresetError :=
  if f.id.isBlankText then some (.missingField (Text.lit "id"))
  else if f.name.isBlankText then some (.missingField (Text.lit "name"))
  else if f.template.isEmpty then some (.missingField (Text.lit "template"))
  else if (r.get? f.id).isSome then some (.duplicateId f.id)
  else if f.hasScript then
    match Script.check r.settings.engine.deniedWords f.scriptSource with
    | .ok () => none
    | .error e => some (.rejected e)
  else none

/-- Checks that a custom format can be registered. -/
def validate (r : Registry) (f : CustomFormat) : Except PresetError Unit :=
  match r.fault? f with
  | some e => .error e
  | none => .ok ()

/-- The registry with a stored format, which is skipped when it cannot be registered. -/
def enlist (r : Registry) (f : CustomFormat) : Registry :=
  match r.fault? f with
  | some _ => r
  | none => { r with presets := r.presets ++ [.custom f] }

/-- The registry of the given settings. -/
def ofSettings (s : Settings) : Registry :=
  s.customFormats.foldl enlist { presets := Builtin.all.map .builtin, settings := s }

def isEnabled (r : Registry) (id : Text) : Bool := r.settings.enabledPresets.contains id

/-- The presets that are shown, in order. -/
def active (r : Registry) : List Preset :=
  (r.settings.presetOrder.filter r.isEnabled).filterMap r.get?

/-- The registry with other presets shown. -/
def withEnabled (r : Registry) (ids : List Text) : Registry :=
  { r with settings := { r.settings with enabledPresets := ids } }

/-- Shows a preset or stops showing it, and says which. Of several mentions of the id only the
first is taken away. -/
def toggle (r : Registry) (id : Text) : Except PresetError (Registry × Bool) :=
  if (r.get? id).isNone then .error (.unknownPreset id)
  else if r.isEnabled id then .ok (r.withEnabled (r.settings.enabledPresets.erase id), false)
  else .ok (r.withEnabled (r.settings.enabledPresets ++ [id]), true)

/-- The registry with the presets in another order. -/
def withOrder (r : Registry) (ids : List Text) : Registry :=
  { r with settings := { r.settings with presetOrder := ids } }

def setOrder (r : Registry) (ids : List Text) : Except PresetError Registry :=
  match ids.find? fun id => (r.get? id).isNone with
  | some unknown => .error (.unknownPreset unknown)
  | none => .ok (r.withOrder ids)

/-- The registry with one more custom format, which is shown and comes last. -/
def extend (r : Registry) (f : CustomFormat) : Registry where
  presets := r.presets ++ [.custom f]
  settings := {
    r.settings with
    enabledPresets := r.settings.enabledPresets ++ [f.id]
    presetOrder := r.settings.presetOrder ++ [f.id]
    customFormats := r.settings.customFormats ++ [f] }

def add (r : Registry) (f : CustomFormat) : Except PresetError Registry :=
  match r.fault? f with
  | some e => .error e
  | none => .ok (r.extend f)

/-- The registry without the first preset of an id and all settings that mention the id. -/
def without (r : Registry) (id : Text) : Registry where
  presets := r.presets.eraseP fun p => p.id = id
  settings := {
    r.settings with
    enabledPresets := r.settings.enabledPresets.filter fun k => k ≠ id
    presetOrder := r.settings.presetOrder.filter fun k => k ≠ id
    customFormats := r.settings.customFormats.filter fun f => f.id ≠ id }

/-- Removes a custom format, with everything that mentions its id. -/
def remove (r : Registry) (id : Text) : Except PresetError (Registry × CustomFormat) :=
  match r.get? id with
  | none => .error (.unknownPreset id)
  | some (.builtin _) => .error (.builtinPreset id)
  | some (.custom f) => .ok (r.without id, f)

end Registry

end CopyFormat
