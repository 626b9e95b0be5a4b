import CopyFormat.Json.Printer
import CopyFormat.Json.Reader
import CopyFormat.Text.Blank

/-!
Stores of values under keys: one in memory, and one in a file that holds a JSON object and is
written anew whenever a value is set. A file that can be read can be written as well: there is no
state for one that refuses only the writing.
-/

namespace CopyFormat

inductive StoreError
  /-- The file cannot be read or written. -/
  | io
  /-- The file does not hold a JSON object. -/
  | json
  deriving DecidableEq, Repr

def StoreError.message : StoreError → Text
  | .io => Text.lit "settings I/O error: the file cannot be accessed"
  | .json => Text.lit "settings JSON error: the file does not hold an object"

/-- What there is in place of a file. -/
inductive SettingsFile
  | absent
  | text (t : Text)
  /-- Something that cannot be read or written, such as a directory. -/
  | unusable

namespace SettingsFile

/-- The values in a file. There are none if it is absent or blank. -/
def entries : SettingsFile → Except StoreError Json.Fields
  | absent => .ok []
  | unusable => .error .io
  | text t =>
      if t.isBlankText then .ok []
      else
        match Json.parse t with
        | some (.object fields) => .ok fields
        | _ => .error .json

/-- The text of a file that holds the given values. -/
def ofEntries (fields : Json.Fields) : SettingsFile := text ((Json.object fields).pretty 0)

/-- The text of a file, if it can be read. -/
def text? : SettingsFile → Option Text
  | text t => some t
  | _ => none

end SettingsFile

inductive Store
  | memory (entries : Json.Fields)
  | file (f : SettingsFile)

namespace Store

def entries : Store → Except StoreError Json.Fields
  | memory fields => .ok fields
  | file f => f.entries

def get (s : Store) (key : Text) : Except StoreError (Option Json) :=
  s.entries.map fun fields => Json.field? key fields

def set (s : Store) (key : Text) (value : Json) : Except StoreError Store :=
  s.entries.map fun fields =>
    match s with
    | memory _ => .memory (Json.setField key value fields)
    | file _ => .file (.ofEntries (Json.setField key value fields))

end Store

end CopyFormat
