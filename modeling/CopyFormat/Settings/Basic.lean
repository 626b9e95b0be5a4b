import CopyFormat.CustomFormat
import CopyFormat.Script.Limits

/-!
Settings of a user, and how they are stored.
-/

namespace CopyFormat

/-- Settings: which presets are shown and in what order, the custom formats, and the limits of
scripts. -/
structure Settings where
  enabledPresets : List Text := []
  presetOrder : List Text := []
  customFormats : List CustomFormat := []
  engine : Script.Limits := {}
  deriving DecidableEq, Repr

/-- The stored form of a list of texts. -/
def Json.texts (l : List Text) : Json := .array (l.map .text)

namespace Script.Limits

/-- The fields of the stored form, in order. -/
def keys : List Text := ["evalTimeoutMs", "maxDepth", "extraDeniedWords"].map String.toList

def toJson (l : Limits) : Json :=
  Json.ofFields (keys.zip
    [.number (.whole l.milliseconds), .number (.whole l.depth), .texts l.deniedWords])

/-- Reads stored limits; each may be left out. -/
def ofJson? (j : Json) : Option Limits := do
  let usual : Limits := {}
  match ← Json.record? keys j with
  | [milliseconds, depth, words] =>
      return {
        milliseconds := ← Json.optional Json.Decoder.natural usual.milliseconds milliseconds
        depth := ← Json.optional Json.Decoder.natural usual.depth depth
        deniedWords := ←
          Json.optional (Json.Decoder.list Json.Decoder.text) usual.deniedWords words }
  | _ => none

end Script.Limits

namespace Settings

/-- All given presets are shown, in the given order. -/
def usual (ids : List Text) : Settings := { enabledPresets := ids, presetOrder := ids }

/-- The fields of the stored form, in order. -/
def keys : List Text :=
  ["enabledPresets", "presetOrder", "customFormats", "engine"].map String.toList

/-- The stored form of settings as fields. -/
def toFields (s : Settings) : Json.Fields :=
  Json.overlay [] (keys.zip
    [.texts s.enabledPresets, .texts s.presetOrder,
      .array (s.customFormats.map CustomFormat.toJson), s.engine.toJson])

def toJson (s : Settings) : Json := .object s.toFields

/-- Reads stored settings; each field may be left out. -/
def ofJson? (j : Json) : Option Settings := do
  match ← Json.record? keys j with
  | [enabled, order, formats, engine] =>
      let texts := Json.Decoder.list Json.Decoder.text
      return {
        enabledPresets := ← Json.optional texts [] enabled
        presetOrder := ← Json.optional texts [] order
        customFormats := ← Json.optional (Json.Decoder.list CustomFormat.ofJson?) [] formats
        engine := ← Json.optional Script.Limits.ofJson? {} engine }
  | _ => none

/-- Reads stored settings over the usual ones: fields that are there count, the others are as
usual. A stored value that is no object has no fields. -/
def overUsual? (ids : List Text) (stored : Json) : Option Settings :=
  let base := (usual ids).toFields
  match stored with
  | .object fields => ofJson? (.object (Json.overlay base fields))
  | _ => ofJson? (.object base)

end Settings

end CopyFormat
