import CopyFormat.Formatting
import CopyFormat.Proofs.Text.Rewrite

/-!
Templates are filled in two passes: the values of the page come first, the value of the script
afterwards. This is one pass over the template as long as no value of the page makes a
placeholder of the script.
-/

namespace CopyFormat.Template

open Text

/-! ### Placeholders -/

theorem placeholder_prefix_iff {name name' r : Text} (hname : '\x7d' ∉ name)
    (hname' : '\x7d' ∉ name') : placeholder name <+: placeholder name' ++ r ↔ name = name' := by
  have hends : name ++ ['\x7d'] <+: name' ++ '\x7d' :: r ↔ name = name' := by
    induction name generalizing name' with
    | nil =>
        cases name' with
        | nil => simp
        | cons d name' =>
            rw [List.mem_cons, not_or] at hname'
            simp [hname'.1]
    | cons c name ih =>
        rw [List.mem_cons, not_or] at hname
        cases name' with
        | nil => simp [Ne.symm hname.1]
        | cons d name' =>
            rw [List.mem_cons, not_or] at hname'
            rw [List.cons_append, List.cons_append, List.cons_prefix_cons, ih hname.2 hname'.2,
              List.cons.injEq]
  simpa [placeholder] using hends

theorem valueAt?_eq_none_iff {values : List (String × Text)} {t : Text} :
    valueAt? values t = none ↔ ∀ p ∈ values, ¬placeholder p.1.toList <+: t := by
  simp [valueAt?, ← List.isPrefixOf_iff_prefix]

/-- Names that can stand in placeholders side by side. -/
structure Distinguishable (values : List (String × Text)) : Prop where
  nodup : (values.map Prod.fst).Nodup
  closed : ∀ p ∈ values, '\x7d' ∉ p.1.toList

theorem Distinguishable.find?_eq_some {values : List (String × Text)} (h : Distinguishable values)
    {p : String × Text} (hp : p ∈ values) {f : String × Text → Bool}
    (hf : ∀ q ∈ values, f q = true ↔ q.1 = p.1) : values.find? f = some p := by
  obtain ⟨before, behind, rfl⟩ := List.append_of_mem hp
  rw [List.find?_eq_some_iff_append]
  refine ⟨(hf p hp).mpr rfl, before, behind, rfl, fun q hq => ?_⟩
  have hne : q.1 ≠ p.1 := by
    have hnodup := h.nodup
    rw [List.map_append, List.map_cons, List.nodup_append] at hnodup
    exact hnodup.2.2 _ (List.mem_map_of_mem hq) _ List.mem_cons_self
  rwa [Bool.not_eq_eq_eq_not, Bool.not_true, ← Bool.not_eq_true,
    hf q (List.mem_append_left _ hq)]

theorem Distinguishable.valueAt?_placeholder {values : List (String × Text)}
    (h : Distinguishable values) {p : String × Text} (hp : p ∈ values) (r : Text) :
    valueAt? values (placeholder p.1.toList ++ r) =
      some (p.2, (placeholder p.1.toList).length) := by
  have hfind : (values.find? fun q =>
      (placeholder q.1.toList).isPrefixOf (placeholder p.1.toList ++ r)) = some p := by
    refine h.find?_eq_some hp fun q hq => ?_
    rw [List.isPrefixOf_iff_prefix, placeholder_prefix_iff (h.closed q hq) (h.closed p hp),
      String.toList_inj]
  rw [valueAt?, hfind]
  rfl

theorem Distinguishable.rewrite_placeholder {values : List (String × Text)}
    (h : Distinguishable values) {p : String × Text} (hp : p ∈ values) (r : Text) :
    rewrite (valueAt? values) 0 (placeholder p.1.toList ++ r) =
      p.2 ++ rewrite (valueAt? values) 0 r :=
  rewrite_of_some (List.cons_ne_nil _ _) (h.valueAt?_placeholder hp r)

theorem rewrite_of_brace_not_mem {values : List (String × Text)} {u : Text} (hu : '\x7b' ∉ u)
    (r : Text) : rewrite (valueAt? values) 0 (u ++ r) = u ++ rewrite (valueAt? values) 0 r := by
  induction u with
  | nil => rfl
  | cons c u ih =>
      rw [List.mem_cons, not_or] at hu
      have hnone : valueAt? values (c :: (u ++ r)) = none := by
        rw [valueAt?_eq_none_iff]
        intro p _ h
        rw [placeholder, List.cons_append, List.cons_prefix_cons] at h
        exact hu.1 h.1
      rw [List.cons_append, rewrite_of_none hnone, ih hu.2, List.cons_append]

theorem reading_induction (values : List (String × Text)) {P : Text → Prop} (nil : P [])
    (placed : ∀ p ∈ values, ∀ r, P r → P (placeholder p.1.toList ++ r))
    (single : ∀ c r, (∀ p ∈ values, ¬placeholder p.1.toList <+: c :: r) → P r → P (c :: r))
    (t : Text) : P t := by
  induction hn : t.length using Nat.strong_induction_on generalizing t with
  | _ n ih =>
      by_cases hplaced : ∃ p ∈ values, placeholder p.1.toList <+: t
      · obtain ⟨p, hp, r, rfl⟩ := hplaced
        refine placed p hp r (ih r.length ?_ r rfl)
        rw [← hn, List.length_append, placeholder]
        simp
      · cases t with
        | nil => exact nil
        | cons c r =>
            refine single c r (fun p hp h => hplaced ⟨p, hp, h⟩) (ih r.length ?_ r rfl)
            rw [← hn]
            exact Nat.lt_succ_self _

/-! ### All placeholders in one pass -/

/-- What stands for the placeholders of a template: the value of the script and those of the
page. -/
def fillings (v : PageValues) (js : Text) : List (String × Text) := ("js", js) :: v.named

theorem forall_name {P : String → Prop}
    (h : ∀ name ∈ ["title", "url", "domain", "path", "selectedText"], P name) {v : PageValues}
    {p : String × Text} (hp : p ∈ v.named) : P p.1 := by
  have hmem : p.1 ∈ v.named.map Prod.fst := List.mem_map_of_mem hp
  exact h p.1 hmem

theorem name_of_mem_named {v : PageValues} {p : String × Text} (hp : p ∈ v.named) :
    '\x7b' ∉ p.1.toList ∧ '\x7d' ∉ p.1.toList ∧ p.1.toList ≠ ['j', 's'] :=
  forall_name (P := fun name => '\x7b' ∉ name.toList ∧ '\x7d' ∉ name.toList ∧
    name.toList ≠ ['j', 's']) (by decide) hp

theorem fillings_distinguishable (v : PageValues) (js : Text) :
    Distinguishable (fillings v js) := by
  constructor
  · change ["js", "title", "url", "domain", "path", "selectedText"].Nodup
    decide
  · rw [fillings, List.forall_mem_cons]
    have hjs : '\x7d' ∉ "js".toList := by decide
    exact ⟨hjs, fun p hp => (name_of_mem_named hp).2.1⟩

theorem named_distinguishable (v : PageValues) : Distinguishable v.named where
  nodup := (List.nodup_cons.mp (fillings_distinguishable v []).nodup).2
  closed _ hp := (name_of_mem_named hp).2.1

/-- The template with values in place of all its placeholders, in one pass from left to right. -/
def onePass (template : Text) (v : PageValues) (js : Text) : Text :=
  rewrite (valueAt? (fillings v js)) 0 template

theorem scriptPlaceholder_eq : scriptPlaceholder = placeholder "js".toList := by
  decide

theorem placeholder_induction (v : PageValues) {P : Text → Prop} (nil : P [])
    (script : ∀ r, P r → P (scriptPlaceholder ++ r))
    (page : ∀ p ∈ v.named, ∀ r, P r → P (placeholder p.1.toList ++ r))
    (single : ∀ c r, ¬scriptPlaceholder <+: c :: r →
      (∀ p ∈ v.named, ¬placeholder p.1.toList <+: c :: r) → P r → P (c :: r)) (t : Text) : P t := by
  rw [scriptPlaceholder_eq] at script single
  -- what is filled in for the script does not matter here
  induction t using reading_induction (fillings v []) with
  | nil => exact nil
  | placed p hp r ih =>
      rw [fillings, List.mem_cons] at hp
      rcases hp with rfl | hp
      · exact script r ih
      · exact page p hp r ih
  | single c r hnone ih =>
      rw [fillings, List.forall_mem_cons] at hnone
      exact single c r hnone.1 hnone.2 ih

theorem onePass_script (v : PageValues) (js r : Text) :
    onePass (scriptPlaceholder ++ r) v js = js ++ onePass r v js := by
  rw [scriptPlaceholder_eq]
  exact (fillings_distinguishable v js).rewrite_placeholder (p := ("js", js)) List.mem_cons_self r

theorem onePass_page {v : PageValues} {p : String × Text} (hp : p ∈ v.named) (js r : Text) :
    onePass (placeholder p.1.toList ++ r) v js = p.2 ++ onePass r v js :=
  (fillings_distinguishable v js).rewrite_placeholder (List.mem_cons_of_mem _ hp) r

theorem onePass_single {v : PageValues} {c : Char} {r : Text}
    (hscript : ¬scriptPlaceholder <+: c :: r)
    (hpage : ∀ p ∈ v.named, ¬placeholder p.1.toList <+: c :: r) (js : Text) :
    onePass (c :: r) v js = c :: onePass r v js := by
  apply rewrite_of_none
  rw [valueAt?_eq_none_iff, fillings, List.forall_mem_cons, ← scriptPlaceholder_eq]
  exact ⟨hscript, hpage⟩

theorem expand_eq_onePass (template : Text) (v : PageValues) :
    expand template v = onePass template v scriptPlaceholder := by
  induction template using placeholder_induction v with
  | nil => rfl
  | script r ih =>
      have hnone : valueAt? v.named (scriptPlaceholder ++ r) = none := by
        rw [valueAt?_eq_none_iff]
        intro p hp h
        obtain ⟨-, hclosed, hne⟩ := name_of_mem_named hp
        rw [scriptPlaceholder, placeholder_prefix_iff hclosed (by decide)] at h
        exact hne h
      calc
        expand (scriptPlaceholder ++ r) v =
            '\x7b' :: rewrite (valueAt? v.named) 0 (['j', 's', '\x7d'] ++ r) :=
          rewrite_of_none hnone
        _ = scriptPlaceholder ++ expand r v := by
          rw [rewrite_of_brace_not_mem (by decide)]
          rfl
        _ = onePass (scriptPlaceholder ++ r) v scriptPlaceholder := by rw [onePass_script, ih]
  | page p hp r ih =>
      rw [onePass_page hp, ← ih]
      exact (named_distinguishable v).rewrite_placeholder hp r
  | single c r hscript hpage ih =>
      rw [onePass_single hscript hpage, ← ih]
      exact rewrite_of_none (valueAt?_eq_none_iff.mpr hpage)

/-! ### Two passes -/

theorem occurrences_page {v : PageValues} {p : String × Text} (hp : p ∈ v.named) (r : Text) :
    occurrences scriptPlaceholder (placeholder p.1.toList ++ r) =
      occurrences scriptPlaceholder r := by
  obtain ⟨hopen, hclosed, hne⟩ := name_of_mem_named hp
  have hlead : ¬scriptPlaceholder <+: placeholder p.1.toList ++ r := by
    rw [scriptPlaceholder, placeholder_prefix_iff (by decide) hclosed]
    exact hne.symm
  have hbehind : '\x7b' ∉ p.1.toList ++ ['\x7d'] := by
    simpa using hopen
  calc
    occurrences scriptPlaceholder (placeholder p.1.toList ++ r) =
        occurrences scriptPlaceholder (p.1.toList ++ ['\x7d'] ++ r) :=
      occurrences_cons_of_not_lead hlead
    _ = occurrences scriptPlaceholder r := occurrences_append_of_not_mem hbehind r

/-- A template is a text with holes for the value of the script, once those of the page are in
place. -/
theorem exists_holes (template : Text) (v : PageValues) :
    ∃ w : List (Option Char), (∀ js, onePass template v js = fillHoles js w) ∧
      occurrences scriptPlaceholder template = w.count none := by
  induction template using placeholder_induction v with
  | nil => exact ⟨[], fun _ => rfl, rfl⟩
  | script r ih =>
      obtain ⟨w, hw, hcount⟩ := ih
      refine ⟨none :: w, fun js => ?_, ?_⟩
      · rw [onePass_script, hw, fillHoles_hole]
      · rw [List.count_cons_self, ← hcount]
        exact occurrences_needle_append (by decide) r
  | page p hp r ih =>
      obtain ⟨w, hw, hcount⟩ := ih
      refine ⟨p.2.map some ++ w, fun js => ?_, ?_⟩
      · rw [onePass_page hp, hw, fillHoles_chars]
      · have hvalue : (p.2.map some).count none = 0 := List.count_eq_zero.mpr (by simp)
        rw [occurrences_page hp, List.count_append, hvalue, Nat.zero_add, hcount]
  | single c r hscript hpage ih =>
      obtain ⟨w, hw, hcount⟩ := ih
      refine ⟨some c :: w, fun js => ?_, ?_⟩
      · rw [onePass_single hscript hpage, hw, fillHoles_char]
      · rw [List.count_cons_of_ne (by simp), ← hcount]
        exact occurrences_cons_of_not_lead hscript

/-- Two passes are one just when the values of the page make no placeholder of the script, or that
is filled with itself. -/
theorem fillScript_expand_iff (template : Text) (v : PageValues) (js : Text) :
    fillScript (expand template v) js = onePass template v js ↔
      occurrences scriptPlaceholder (expand template v) =
        occurrences scriptPlaceholder template ∨ js = scriptPlaceholder := by
  obtain ⟨w, hw, hcount⟩ := exists_holes template v
  rw [expand_eq_onePass, hw, hw, hcount]
  exact replaceAll_fillHoles_iff (by decide) js w

end CopyFormat.Template

namespace CopyFormat.CustomFormat

open Text

/-- A format with a script and no search gives its template, with all placeholders replaced in one
pass from left to right, just when the values of the page make no placeholder of the script in
the template. (A script whose value is its placeholder changes nothing.) -/
theorem apply_text_iff {f : CustomFormat} (hscript : f.hasScript = true)
    (hsearch : f.hasSearch = false) (limits : Script.Limits) (c : Circumstances) (p : Page) :
    let v := PageValues.ofPage p
    let js := (scriptText limits c v f.scriptSource).1
    (f.apply limits c p).text = rewrite (Template.valueAt? (("js", js) :: v.named)) 0 f.template ↔
      occurrences Template.scriptPlaceholder (Template.expand f.template v) =
        occurrences Template.scriptPlaceholder f.template ∨ js = Template.scriptPlaceholder := by
  intro v js
  have htext : (f.apply limits c p).text =
      Template.fillScript (Template.expand f.template v) js := by
    rw [apply, hsearch, filled, hscript]
    rfl
  rw [htext]
  exact Template.fillScript_expand_iff f.template v js

def scripted (template : String) : CustomFormat where
  id := ['1']
  name := ['n']
  template := Text.lit template
  scriptSource := Text.lit "'x'"

/-- A title that is a placeholder of the script is replaced by its value. -/
theorem title_filled :
    ¬∀ (f : CustomFormat) (limits : Script.Limits) (now : Date.Moment) (p : Page),
      f.hasScript = true → f.hasSearch = false →
        let v := PageValues.ofPage p
        let js := (scriptText limits now v f.scriptSource).1
        (f.apply limits now p).text =
          rewrite (Template.valueAt? (("js", js) :: v.named)) 0 f.template := by
  intro h
  have htext := h (scripted "\x7btitle\x7d") {} default { title := Text.lit "\x7bjs\x7d" }
    (by decide) (by decide)
  revert htext
  decide

/-- A title that is another placeholder stays as it is. -/
theorem title_verbatim :
    let f := scripted "\x7btitle\x7d \x7bjs\x7d"
    f.hasScript = true ∧ f.hasSearch = false ∧
      (f.apply {} default { title := Text.lit "\x7burl\x7d" }).text =
        Text.lit "\x7burl\x7d x" := by
  intro f
  have hscript : f.hasScript = true := by decide
  have hsearch : f.hasSearch = false := by decide
  refine ⟨hscript, hsearch, ?_⟩
  rw [(apply_text_iff hscript hsearch _ _ _).mpr (.inl (by decide))]
  decide

example :
    ((scripted "\x7bjs\x7d").apply {} { now := default, race := .late } { title := [] }).text =
      Text.lit "[error: evaluation timed out after 1000ms]" := by decide

end CopyFormat.CustomFormat
