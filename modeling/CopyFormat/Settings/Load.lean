import CopyFormat.Settings.Basic
import CopyFormat.Settings.Store

/-!
Loading settings from a store and saving them to it.
-/

namespace CopyFormat.Settings

/-- The key under which settings are stored. -/
def storeKey : Text := Text.lit "presetSettings"

def save (s : Settings) (store : Store) : Except StoreError Store := store.set storeKey s.toJson

/-- The settings in a store, and the store afterwards. When nothing is stored yet, the usual
settings are saved; when the store does not answer, or what is stored cannot be read, they are
taken without saving. -/
def load (ids : List Text) (store : Store) : Settings × Store :=
  match store.get storeKey with
  | .error _ => (usual ids, store)
  | .ok (some stored) => ((overUsual? ids stored).getD (usual ids), store)
  | .ok none =>
      match (usual ids).save store with
      | .ok saved => (usual ids, saved)
      | .error _ => (usual ids, store)

end CopyFormat.Settings
