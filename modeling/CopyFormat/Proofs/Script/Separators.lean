import CopyFormat.Proofs.Text.Split
import CopyFormat.Script.Operation

/-!
The operations on separators fit together: joining undoes splitting, splitting undoes joining, and
replacing is splitting at one text and joining with another.
-/

namespace CopyFormat.Script.Operation

theorem splitText_of_ne_nil {sep : Text} (hsep : sep ≠ []) (t : Text) :
    splitText t sep = Text.splitOn t sep := by
  rw [splitText, if_neg (by simpa using hsep)]

theorem join_splitText (t sep : Text) : Text.join sep (splitText t sep) = t := by
  cases sep with
  | nil => exact Text.join_nil_map_singleton t
  | cons c rest => rw [splitText_of_ne_nil (List.cons_ne_nil c rest), Text.join_splitOn]

theorem join_splitText_eq_replaceAll {old : Text} (hold : old ≠ []) (t new : Text) :
    Text.join new (splitText t old) = Text.replaceAll t old new := by
  rw [splitText_of_ne_nil hold]
  obtain ⟨c, rest, rfl⟩ := List.exists_cons_of_ne_nil hold
  exact Text.join_splitOn_eq_replaceAll t new

theorem splitText_join {items : List Text} {c : Char} (hne : items ≠ [])
    (h : ∀ item ∈ items, c ∉ item) : splitText (Text.join [c] items) [c] = items := by
  rw [splitText_of_ne_nil (List.cons_ne_nil c []), Text.splitOn_join hne h]

variable (now : Date.Moment)

theorem call_split (v w : Value) :
    call now .split [v, w] = .ok (.list (splitText v.display w.display)) := rfl

theorem call_join_list (items : List Text) (w : Value) :
    call now .join [.list items, w] = .ok (.text (Text.join w.display items)) := rfl

theorem call_replaceAll {old : Value} (hold : old.display ≠ []) (v new : Value) :
    call now .replaceAll [v, old, new] =
      .ok (.text (Text.replaceAll v.display old.display new.display)) := by
  have hfull : old.display.isEmpty = false := by simpa using hold
  rw [call]
  simp [hfull]

/-- Whatever the values are, their texts decide: what has been split at a text is that text again
when it is joined with it, and the replacement of it when it is joined with another one. Items that do
not hold a separator of one character are the same after they have been joined with it and split. -/
theorem separators_fit :
    (∀ v w : Value, ∃ parts, call now .split [v, w] = .ok parts ∧
      call now .join [parts, w] = .ok (.text v.display)) ∧
    (∀ v old new : Value, old.display ≠ [] → ∃ parts t, call now .split [v, old] = .ok parts ∧
      call now .join [parts, new] = .ok t ∧ call now .replaceAll [v, old, new] = .ok t) ∧
    ∀ (items : List Text) (sep : Value) (c : Char), items ≠ [] → sep.display = [c] →
      (∀ item ∈ items, c ∉ item) → ∃ t, call now .join [.list items, sep] = .ok t ∧
        call now .split [t, sep] = .ok (.list items) := by
  refine ⟨fun v w => ?_, fun v old new hold => ?_, fun items sep c hne hsep hitems => ?_⟩
  · refine ⟨_, call_split now v w, ?_⟩
    rw [call_join_list, join_splitText]
  · refine ⟨_, _, call_split now v old, call_join_list now _ new, ?_⟩
    rw [call_replaceAll now hold, join_splitText_eq_replaceAll hold]
  · refine ⟨_, call_join_list now items sep, ?_⟩
    rw [call_split, Value.display, hsep, splitText_join hne hitems]

/-- A separator that overlaps itself, and one that stands at both ends. -/
theorem separators_fit_overlapping :
    let now := Date.Moment.ofTimestamp 0 0 0
    let v := Value.text (Text.lit "aaaba")
    let old := Value.text (Text.lit "aa")
    let new := Value.list [Text.lit "é", []]
    let items := [[], Text.lit "é", []]
    let sep := Value.text (Text.lit "-")
    (old.display ≠ [] ∧ ∃ parts t, call now .split [v, old] = .ok parts ∧
      call now .join [parts, new] = .ok t ∧ call now .replaceAll [v, old, new] = .ok t) ∧
    (items ≠ [] ∧ sep.display = ['-'] ∧ ∀ item ∈ items, '-' ∉ item) ∧
      ∃ t, call now .join [.list items, sep] = .ok t ∧
        call now .split [t, sep] = .ok (.list items) := by
  intro now v old new items sep
  obtain ⟨-, hreplace, hsplit⟩ := separators_fit now
  have hold : old.display ≠ [] := by decide
  have hne : items ≠ [] := by decide
  have hsep : sep.display = ['-'] := rfl
  have hitems : ∀ item ∈ items, '-' ∉ item := by decide
  exact ⟨⟨hold, hreplace v old new hold⟩, ⟨hne, hsep, hitems⟩,
    hsplit items sep '-' hne hsep hitems⟩

end CopyFormat.Script.Operation
