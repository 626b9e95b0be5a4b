import CopyFormat.Formatting
import CopyFormat.Preset.Builtin

/-!
Presets: the ones that are always there, and the formats that users define.
-/

namespace CopyFormat

inductive Preset
  | builtin (b : Builtin)
  | custom (f : CustomFormat)
  deriving DecidableEq, Repr

namespace Preset

def id : Preset → Text
  | builtin b => b.id
  | custom f => f.id

def name : Preset → Text
  | builtin b => b.name
  | custom f => f.name

def icon : Preset → Text
  | builtin b => b.icon
  | custom _ => Text.lit "⚙\uFE0F"

/-- What is told about a preset; of a custom one that is its template. -/
def description : Preset → Text
  | builtin b => b.description
  | custom f => f.template

def isBuiltin : Preset → Bool
  | builtin _ => true
  | custom _ => false

def apply (limits : Script.Limits) (c : Circumstances) (p : Page) : Preset → Formatted
  | builtin b => { text := b.render p }
  | custom f => f.apply limits c p

end Preset

end CopyFormat
