import CopyFormat.Proofs.Json.RoundTrip
import CopyFormat.Settings.Store

/-!
Files that hold a JSON object, and what is read from a file after fields have been written to it.
-/

namespace CopyFormat

open Json

variable {file : SettingsFile} {fields : Fields}

namespace SettingsFile

/-- The file is absent, blank or a JSON object. -/
def HoldsObject : SettingsFile → Prop
  | absent => True
  | text t => t.isBlankText = true ∨ ∃ fields, parse t = some (.object fields)
  | unusable => False

/-- What the file holds: nothing if it is absent or blank, else the fields of its object. -/
inductive Holds : SettingsFile → Fields → Prop
  | absent : Holds absent []
  | blank {t : Text} (hblank : t.isBlankText = true) : Holds (text t) []
  | object {t : Text} {fields : Fields} (hblank : t.isBlankText = false)
      (hparse : parse t = some (.object fields)) : Holds (text t) fields

/-- All numbers of an object that the file holds are integers of 64 bits. -/
def HasIntegers (file : SettingsFile) : Prop :=
  ∀ t fields, file = text t → parse t = some (.object fields) →
    ∀ n, Mentions n (.object fields) → n.IsInteger

theorem hasIntegers_text {t : Text} (hparse : parse t = some (.object fields))
    (h : ∀ n, Mentions n (.object fields) → n.IsInteger) : (text t).HasIntegers := by
  intro t' fields' ht hparse'
  cases ht
  rw [hparse] at hparse'
  cases hparse'
  exact h

/-- All numbers in the file can be read back after they have been written. -/
def Rereadable (file : SettingsFile) : Prop :=
  ∀ fields, file.Holds fields → ∀ n, Mentions n (.object fields) → n.Rereadable

/-- The values in the file can be written again. -/
def Rewritable (file : SettingsFile) : Prop :=
  ∀ fields, file.entries = .ok fields → Normal Number.IsInteger nestingLimit (.object fields)

theorem holdsObject_iff (file : SettingsFile) :
    file.HoldsObject ↔ ∃ fields, file.entries = .ok fields := by
  cases file with
  | absent => exact ⟨fun _ => ⟨[], rfl⟩, fun _ => trivial⟩
  | unusable => exact ⟨False.elim, fun ⟨_, h⟩ => by cases h⟩
  | text t =>
      rw [HoldsObject, entries]
      constructor
      · rintro (hblank | ⟨fields, hparse⟩)
        · exact ⟨[], if_pos hblank⟩
        · rw [hparse]
          split
          · exact ⟨[], rfl⟩
          · exact ⟨fields, rfl⟩
      · rintro ⟨fields, h⟩
        split at h
        · rename_i hblank
          exact .inl hblank
        · split at h
          · rename_i fields' hparse
            exact .inr ⟨fields', hparse⟩
          · cases h

theorem holds_iff : file.Holds fields ↔ file.entries = .ok fields := by
  constructor
  · intro h
    cases h with
    | absent => rfl
    | blank hblank => rw [entries, if_pos hblank]
    | object hblank hparse => rw [entries, if_neg (by simp [hblank]), hparse]
  · intro h
    cases file with
    | absent =>
        cases h
        exact .absent
    | unusable => cases h
    | text t =>
        rw [entries] at h
        split at h
        · rename_i hblank
          cases h
          exact .blank hblank
        · rename_i hblank
          split at h
          · rename_i hparse
            cases h
            exact .object (by simpa using hblank) hparse
          · cases h

theorem normal_nil {p : Number → Prop} : Normal p nestingLimit (.object []) :=
  .object List.Pairwise.nil (by simp)

theorem Holds.shaped (h : file.Holds fields) : Shaped nestingLimit (.object fields) := by
  cases h with
  | absent => exact normal_nil
  | blank _ => exact normal_nil
  -- The fields have been read, so that their form is known without any condition on the text.
  | object _ hparse => exact parse_shaped hparse

theorem Holds.normal (h : file.Holds fields) (hintegers : file.HasIntegers) :
    Normal Number.IsInteger nestingLimit (.object fields) := by
  cases h with
  | absent => exact normal_nil
  | blank _ => exact normal_nil
  | object _ hparse =>
      exact (parse_shaped hparse).of_mentions fun n hn => hintegers _ _ rfl hparse n hn

theorem Holds.unique {fields' : Fields} (h : file.Holds fields) (h' : file.Holds fields') :
    fields = fields' := by
  rw [holds_iff] at h h'
  rw [h] at h'
  exact Except.ok.inj h'

theorem Holds.rereadable {d : Nat} (h : file.Holds fields)
    (hnormal : Normal Number.IsInteger d (.object fields)) : file.Rereadable := by
  intro fields' h' n hn
  cases h.unique h'
  exact ⟨.number n, (hnormal.mentions hn).exact⟩

theorem HasIntegers.rewritable (h : file.HasIntegers) : file.Rewritable :=
  fun _ hfields => (holds_iff.mpr hfields).normal h

theorem isBlankText_pretty (fields : Fields) (level : Nat) :
    (pretty level (.object fields)).isBlankText = false := by
  cases fields with
  | nil => rfl
  | cons f fields => rfl

theorem holds_ofEntries_iff {fields' : Fields} (h : Shaped nestingLimit (.object fields)) :
    (ofEntries fields).Holds fields' ↔ rereadFields? fields = some fields' := by
  rw [holds_iff, ofEntries, entries, parse_pretty_eq_reread? h,
    if_neg (by simp [isBlankText_pretty]), reread?]
  cases rereadFields? fields with
  | none => simp
  | some r => simp

theorem entries_ofEntries (h : Normal Number.IsInteger nestingLimit (.object fields)) :
    (ofEntries fields).entries = .ok fields := by
  rw [ofEntries, entries, parse_pretty h, if_neg (by simp [isBlankText_pretty])]

theorem rewritable_ofEntries (h : Normal Number.IsInteger nestingLimit (.object fields)) :
    (ofEntries fields).Rewritable := by
  intro fields' hfields
  rw [entries_ofEntries h] at hfields
  cases hfields
  exact h

theorem holdsObject_ofEntries (h : Normal Number.IsInteger nestingLimit (.object fields)) :
    (ofEntries fields).HoldsObject :=
  (holdsObject_iff _).mpr ⟨fields, entries_ofEntries h⟩

end SettingsFile

end CopyFormat
