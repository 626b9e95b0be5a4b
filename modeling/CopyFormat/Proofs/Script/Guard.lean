import CopyFormat.Proofs.Text.Character
import CopyFormat.Proofs.Text.Basic
import CopyFormat.Proofs.Text.Excerpt
import CopyFormat.Proofs.Text.Trim
import CopyFormat.Proofs.Unicode.Word

/-!
Which scripts the check accepts. What it refuses in a piece of a script it refuses in the whole
script too, when the piece is cut out at characters that neither a word nor a name has.
-/

namespace CopyFormat.Script

theorem isNameChar_of_isBlank {c : Char} (h : isBlank c = true) : isNameChar c = false := by
  rw [isBlank_iff] at h
  rw [Bool.eq_false_iff, ne_eq, isNameChar_iff, isNameStart_iff]
  omega

theorem isBlank_of_isNameStart {c : Char} (h : isNameStart c = true) : isBlank c = false := by
  cases hblank : isBlank c with
  | false => rfl
  | true =>
      have hnot := isNameChar_of_isBlank hblank
      rw [isNameChar, h] at hnot
      cases hnot

/-- Whether a character belongs to no word and to no name. -/
def isSeparator (c : Char) : Bool := !Unicode.isWord c && c != '$'

theorem isWord_of_isSeparator {c : Char} (h : isSeparator c = true) : Unicode.isWord c = false := by
  rw [isSeparator, Bool.and_eq_true] at h
  simpa using h.1

theorem isNameChar_of_isSeparator {c : Char} (h : isSeparator c = true) : isNameChar c = false := by
  have hword := isWord_of_isSeparator h
  rw [isSeparator, Bool.and_eq_true, bne_iff_ne, ne_eq, ← Char.toNat_inj] at h
  rw [Bool.eq_false_iff]
  intro hname
  rw [isNameChar_iff, isNameStart_iff] at hname
  change _ ∧ ¬c.toNat = 36 at h
  rw [Unicode.isWord, if_pos (by omega), Unicode.isAsciiWord, Char.isAlphanum, Bool.or_eq_false_iff,
    Bool.or_eq_false_iff, beq_eq_false_iff_ne, ne_eq, ← Char.toNat_inj] at hword
  obtain ⟨⟨halpha, hdigit⟩, hscore⟩ := hword
  rw [Bool.eq_false_iff, ne_eq, isAlpha_iff] at halpha
  rw [Bool.eq_false_iff, ne_eq, isDigit_iff] at hdigit
  change ¬c.toNat = 95 at hscore
  omega

theorem isSeparator_of_isBlank {c : Char} (h : isBlank c = true) : isSeparator c = true := by
  have hdollar : c ≠ '$' := by
    rintro rfl
    exact absurd h (by decide)
  rw [isSeparator, Unicode.isWord_of_isBlank h]
  simpa using hdollar

/-- A piece of a script that is cut out at separators. -/
abbrev Excerpt (s t : Text) : Prop := Text.CutOut isSeparator s t

theorem excerpt_trim (t : Text) : Excerpt t (Text.trim t) := by
  obtain ⟨u, v, hu, hv, ht⟩ := Text.exists_trim t
  have hcut : Excerpt (u ++ (Text.trim t ++ v)) (Text.trim t) :=
    .of_forall (fun c hc => isSeparator_of_isBlank (Text.isBlankText_iff.mp hu c hc))
      (fun c hc => isSeparator_of_isBlank (Text.isBlankText_iff.mp hv c hc)) _
  rwa [← ht] at hcut

theorem mem_mentionedNames_iff {t w : Text} :
    w ∈ mentionedNames t ↔ w ≠ [] ∧ ∃ v, Text.CutOut (fun c => !isNameChar c) t v ∧
      (∀ c ∈ v, isNameChar c = true) ∧ v.dropWhile Char.isDigit = w := by
  rw [mentionedNames, List.mem_filter, List.mem_map, and_comm]
  simp only [Text.mem_stretches_iff, Bool.not_eq_false', and_assoc, Bool.not_eq_true',
    List.isEmpty_eq_false_iff, ne_eq]

theorem mentionedNames_subset {s t : Text} (h : Excerpt s t) :
    mentionedNames t ⊆ mentionedNames s := by
  intro w hw
  rw [mem_mentionedNames_iff] at hw ⊢
  obtain ⟨hne, v, hcut, hv, hdrop⟩ := hw
  have hnames : Text.CutOut (fun c => !isNameChar c) s t :=
    h.mono fun c hc => by rw [isNameChar_of_isSeparator hc]; rfl
  exact ⟨hne, v, hnames.trans hcut, hv, hdrop⟩

namespace CallShape

variable {s : CallShape} {t u : Text}

theorem getLast?_cons_or (d : Char) (u : Text) (before : Option Char) :
    (d :: u).getLast?.or before = u.getLast?.or (some d) := by
  rw [List.getLast?_cons]
  cases u.getLast? <;> rfl

theorem occursBehind_iff {before : Option Char} :
    s.occursBehind before t = true ↔ ∃ u v, t = u ++ v ∧ v ≠ [] ∧
      (∀ c ∈ u.getLast?.or before, Unicode.isWord c = false) ∧ s.startsAt v = true := by
  induction t generalizing before with
  | nil => simp [occursBehind]
  | cons d t ih =>
      have hbefore : (!before.any Unicode.isWord) = true ↔
          ∀ c ∈ before, Unicode.isWord c = false := by
        cases before <;> simp
      rw [occursBehind, Bool.or_eq_true, ih, Bool.and_eq_true, hbefore]
      constructor
      · rintro (⟨hword, hstart⟩ | ⟨u, v, rfl, hne, hword, hstart⟩)
        · exact ⟨[], d :: t, rfl, List.cons_ne_nil _ _, hword, hstart⟩
        · exact ⟨d :: u, v, rfl, hne, by rwa [getLast?_cons_or], hstart⟩
      · rintro ⟨u, v, ht, hne, hword, hstart⟩
        cases u with
        | nil =>
            rw [List.nil_append] at ht
            subst ht
            exact .inl ⟨hword, hstart⟩
        | cons e u =>
            rw [List.cons_append, List.cons.injEq] at ht
            obtain ⟨rfl, rfl⟩ := ht
            exact .inr ⟨u, v, rfl, hne, by rwa [← getLast?_cons_or], hstart⟩

theorem occursIn_iff : s.occursIn t = true ↔ ∃ u v, t = u ++ v ∧ v ≠ [] ∧
    (∀ c ∈ u.getLast?, Unicode.isWord c = false) ∧ s.startsAt v = true := by
  simp only [occursIn, occursBehind_iff, Option.or_none]

theorem endsWith_append {e : CallEnding} (h : endsWith e t = true) (r : Text) :
    endsWith e (t ++ r) = true := by
  have hblank : t.isBlankText = false := by
    rw [Bool.eq_false_iff, ne_eq, ← Text.trimStart_eq_nil_iff]
    intro hnil
    cases e <;> simp [endsWith, hnil] at h
  have hhead : (Text.trimStart (t ++ r)).head? = (Text.trimStart t).head? := by
    rw [Text.trimStart_append hblank, List.head?_append_of_ne_nil]
    rw [ne_eq, Text.trimStart_eq_nil_iff, hblank]
    exact Bool.false_ne_true
  have hfirst : (t ++ r).head? = t.head? := by
    rw [List.head?_append_of_ne_nil]
    rintro rfl
    cases hblank
  rw [endsWith.eq_def] at h ⊢
  rw [hhead, hfirst]
  exact h

theorem startsAt_append (h : s.startsAt t = true) (r : Text) : s.startsAt (t ++ r) = true := by
  obtain ⟨x, hx, hends⟩ := (Option.any_eq_true ..).mp h
  rw [startsAt, Text.after?_eq_some hx, List.append_assoc, Text.after?_append]
  exact endsWith_append hends r

theorem occursIn_of_excerpt (h : Excerpt t u) (hu : s.occursIn u = true) : s.occursIn t = true := by
  obtain ⟨before, behind, rfl, hbefore, -⟩ := h
  obtain ⟨x, y, rfl, hne, hword, hstart⟩ := occursIn_iff.mp hu
  refine occursIn_iff.mpr ⟨before ++ x, y ++ behind, by simp, by simp [hne], ?_,
    startsAt_append hstart behind⟩
  intro c hc
  rw [List.getLast?_append, Option.mem_def, Option.or_eq_some_iff] at hc
  rcases hc with hc | ⟨-, hc⟩
  · exact hword c hc
  · exact isWord_of_isSeparator (hbefore c hc)

end CallShape

theorem check_eq_ok_iff {extra : List Text} {t : Text} :
    check extra t = .ok () ↔ (∀ s ∈ CallShape.all, s.occursIn t = false) ∧
      ∀ w ∈ mentionedNames t, w ∉ deniedWords ∧ w ∉ extra := by
  have hrefused : check extra t = .ok () ↔ refused? extra t = none := by
    rw [check]
    cases refused? extra t <;> simp
  rw [hrefused, refused?]
  cases hshape : CallShape.all.find? fun s => s.occursIn t with
  | some s =>
      have hs : s.occursIn t = true := by simpa using List.find?_some hshape
      refine iff_of_false (Option.some_ne_none _) fun h => ?_
      rw [h.1 s (List.mem_of_find?_eq_some hshape)] at hs
      cases hs
  | none =>
      have hnone : ∀ s ∈ CallShape.all, s.occursIn t = false := by
        simpa using hshape
      rw [and_iff_right hnone]
      simp

theorem check_excerpt {extra : List Text} {s t : Text} (h : Excerpt s t)
    (hs : check extra s = .ok ()) : check extra t = .ok () := by
  rw [check_eq_ok_iff] at hs ⊢
  obtain ⟨hshapes, hnames⟩ := hs
  refine ⟨fun shape hshape => ?_, fun w hw => hnames w (mentionedNames_subset h hw)⟩
  rw [Bool.eq_false_iff]
  intro hoccurs
  have hwhole := CallShape.occursIn_of_excerpt h hoccurs
  rw [hshapes shape hshape] at hwhole
  cases hwhole

theorem mentionedNames_of_blank {t : Text} (ht : t.isBlankText = true) : mentionedNames t = [] := by
  rw [List.eq_nil_iff_forall_not_mem]
  intro w hw
  obtain ⟨hne, v, hcut, hv, rfl⟩ := mem_mentionedNames_iff.mp hw
  rcases v with _ | ⟨c, v⟩
  · exact hne rfl
  · have hblank := Text.isBlankText_iff.mp ht c (hcut.isInfix.subset List.mem_cons_self)
    have hname := hv c List.mem_cons_self
    rw [isNameChar_of_isBlank hblank] at hname
    cases hname

theorem CallShape.startsAt_of_blank {s : CallShape} {t : Text} (ht : t.isBlankText = true) :
    s.startsAt t = false := by
  rw [Bool.eq_false_iff]
  intro hstart
  obtain ⟨x, hx, hends⟩ := (Option.any_eq_true ..).mp hstart
  rw [Text.after?_eq_some hx, Text.isBlankText_append] at ht
  have hnil := Text.trimStart_of_blank ht.2
  rw [endsWith.eq_def, hnil] at hends
  cases hending : s.ending <;> simp [hending] at hends

theorem check_of_blank (extra : List Text) {t : Text} (ht : t.isBlankText = true) :
    check extra t = .ok () := by
  rw [check_eq_ok_iff, mentionedNames_of_blank ht]
  refine ⟨fun s _ => ?_, by simp⟩
  rw [Bool.eq_false_iff]
  intro hoccurs
  obtain ⟨u, v, rfl, -, -, hstart⟩ := CallShape.occursIn_iff.mp hoccurs
  rw [CallShape.startsAt_of_blank (Text.isBlankText_append.mp ht).2] at hstart
  cases hstart

end CopyFormat.Script
