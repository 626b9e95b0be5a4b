import CopyFormat.Proofs.Preset.Changes

/-!
What admission to a registry is worth. A script is checked when its format is registered and again
when the format is used, each time in another way; the second check never refuses what the first
has let through.
-/

namespace CopyFormat

variable {limits : Script.Limits} {detail : Text} {f : CustomFormat}

/-- Only the check refuses a script, no operation and no part of it does. -/
theorem Script.evaluate_eq_violation_iff (ctx : Script.Context) {source : Text} :
    Script.evaluate limits ctx source = .error (.securityViolation detail) ↔
      Script.check limits.deniedWords source = .error (.securityViolation detail) := by
  rw [Script.evaluate]
  cases Script.check limits.deniedWords source with
  | error e =>
      change (Except.error e : Except _ Script.Value) = _ ↔ _
      rw [Except.error.injEq, Except.error.injEq]
  | ok u =>
      refine iff_of_false ?_ (by rintro ⟨⟩)
      change (Script.evalAt ctx limits.depth (limits.depth + 1) source).mapError _ ≠ _
      cases Script.evalAt ctx limits.depth (limits.depth + 1) source with
      | error fault => rintro ⟨⟩
      | ok v => rintro ⟨⟩

theorem Script.check_eq_violation_of_race {race : Script.Race} {ctx : Script.Context}
    {source : Text}
    (h : race.evaluate limits ctx source = .error (.securityViolation detail)) :
    Script.check limits.deniedWords source = .error (.securityViolation detail) := by
  rw [Script.Race.evaluate.eq_def] at h
  split at h
  case h_1 | h_2 => exact (Script.evaluate_eq_violation_iff ctx).mp h
  all_goals cases h

theorem CustomFormat.check_eq_violation_of_mem_scriptText {c : Circumstances} {v : PageValues}
    {source : Text} (h : .script (.securityViolation detail) ∈ (scriptText limits c v source).2) :
    Script.check limits.deniedWords source = .error (.securityViolation detail) := by
  rw [scriptText] at h
  split at h
  · exact absurd h List.not_mem_nil
  · rename_i e he
    rw [List.mem_singleton, Diagnostic.script.injEq] at h
    subst h
    exact Script.check_eq_violation_of_race he

theorem CustomFormat.check_eq_violation_of_mem_diagnostics {c : Circumstances} {page : Page}
    (h : .script (.securityViolation detail) ∈ (f.apply limits c page).diagnostics) :
    Script.check limits.deniedWords f.scriptSource = .error (.securityViolation detail) := by
  have hfilled : .script (.securityViolation detail) ∈
      (f.filled limits c (.ofPage page)).diagnostics := by
    rw [apply] at h
    cases hsearch : f.hasSearch with
    | false => simpa [hsearch] using h
    | true => simpa [hsearch] using h
  rw [filled] at hfilled
  split at hfilled
  · exact check_eq_violation_of_mem_scriptText hfilled
  · exact absurd hfilled List.not_mem_nil

namespace Registry

variable {s : Settings} {r : Registry}

theorem Reachable.sound (h : Reachable s r) (hf : .custom f ∈ r.presets) :
    Sound r.settings.engine.deniedWords f := by
  obtain ⟨added, hpresets, -, hsound⟩ := ofSettings_presets r.settings
  rw [h.ofSettings_settings] at hpresets
  rw [hpresets, List.mem_append] at hf
  rcases hf with hf | hf
  · obtain ⟨b, -, hb⟩ := List.mem_map.mp hf
    cases hb
  · obtain ⟨g, hg, hfg⟩ := List.mem_map.mp hf
    cases hfg
    exact hsound f hg

/-- However the registry has been changed, and whatever the page is, no preset of it is refused
when it is used with the limits of the registry. -/
theorem not_refused_of_reachable (h : Reachable s r) {p : Preset} (hp : p ∈ r.presets)
    (c : Circumstances) (page : Page) (detail : Text) :
    .script (.securityViolation detail) ∉ (p.apply r.settings.engine c page).diagnostics := by
  cases p with
  | builtin b => exact List.not_mem_nil
  | custom f =>
      intro hmem
      have hrefused := CustomFormat.check_eq_violation_of_mem_diagnostics hmem
      rw [(h.sound hp).check_eq_ok] at hrefused
      cases hrefused

/-- Settings in which the word `secret` is denied, with a format that uses it and one that does
not. -/
def guarded : Settings where
  customFormats :=
    [{ id := ['1'], name := ['a'], template := ['t'], scriptSource := Text.lit "upper(secret)" },
      { id := ['2'], name := ['b'], template := ['t'], scriptSource := Text.lit "upper(title)" }]
  engine := { deniedWords := [Text.lit "secret"] }

/-- The denied word in the title of the page is of no account, and the format that uses it is not
there. -/
theorem not_refused_guarded :
    let r := (ofSettings guarded).after (.toggle ['2'])
    let f : CustomFormat :=
      { id := ['2'], name := ['b'], template := ['t'], scriptSource := Text.lit "upper(title)" }
    let page : Page := { title := Text.lit "secret" }
    Reachable guarded r ∧ r.customs = [f] ∧ .custom f ∈ r.presets ∧
      .script (.notAllowed (Text.lit "secret")) ∉
        ((Preset.custom f).apply r.settings.engine default page).diagnostics := by
  intro r f page
  have hr : Reachable guarded r := .after _ .start
  have hf : .custom f ∈ r.presets := by decide +kernel
  exact ⟨hr, by decide +kernel, hf, not_refused_of_reachable hr hf default page _⟩

end Registry

end CopyFormat
