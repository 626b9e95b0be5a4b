import CopyFormat.Json.Decode
import CopyFormat.Text.Blank

/-!
Formats that users define, and how they are stored.
-/

namespace CopyFormat

/-- A format: a template, a search with its replacement, and a script. -/
structure CustomFormat where
  id : Text
  name : Text
  template : Text
  searchPattern : Text := []
  replacePattern : Text := []
  scriptSource : Text := []
  deriving DecidableEq, Repr

namespace CustomFormat

def hasScript (f : CustomFormat) : Bool := !f.scriptSource.isBlankText

def hasSearch (f : CustomFormat) : Bool := !f.searchPattern.isBlankText

def keys : List Text :=
  ["id", "name", "template", "searchPattern", "replacePattern", "scriptSource"].map String.toList

def toJson (f : CustomFormat) : Json :=
  Json.ofFields (keys.zip ([f.id, f.name, f.template, f.searchPattern, f.replacePattern,
    f.scriptSource].map Json.text))

/-- Reads a stored format. The search, the replacement and the script may be left out. -/
def ofJson? (j : Json) : Option CustomFormat := do
  match ← Json.record? keys j with
  | [id, name, template, search, replacement, script] =>
      return {
        id := ← Json.required Json.Decoder.text id
        name := ← Json.required Json.Decoder.text name
        template := ← Json.required Json.Decoder.text template
        searchPattern := ← Json.optional Json.Decoder.text [] search
        replacePattern := ← Json.optional Json.Decoder.text [] replacement
        scriptSource := ← Json.optional Json.Decoder.text [] script }
  | _ => none

end CustomFormat

end CopyFormat
