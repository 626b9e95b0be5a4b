import CopyFormat.Proofs.Script.Guard
import CopyFormat.Script.Shape

/-!
Which scripts are refused, said of the script itself: those with a denied word among their names, and
those with a denied call. The two see words differently. A name is a run of letters, digits, `_` and
`$` of ASCII, of which the digits in front are dropped; a call must only follow no word character of
Unicode.
-/

namespace CopyFormat.Script

/-- A longest run of characters that can stand in a name. -/
structure NameRun (t w : Text) : Prop where
  cutOut : Text.CutOut (fun c => !isNameChar c) t w
  ne_nil : w ≠ []
  names : ∀ c ∈ w, isNameChar c = true

/-- A name that is denied stands in a text. A run of digits alone leaves no name. -/
def MentionsDenied (extra : List Text) (t : Text) : Prop :=
  ∃ w, NameRun t w ∧ w.dropWhile Char.isDigit ≠ [] ∧
    (w.dropWhile Char.isDigit ∈ deniedWords ∨ w.dropWhile Char.isDigit ∈ extra)

theorem mem_mentionedNames_iff_nameRun {t w : Text} :
    w ∈ mentionedNames t ↔ w ≠ [] ∧ ∃ v, NameRun t v ∧ v.dropWhile Char.isDigit = w := by
  rw [mem_mentionedNames_iff]
  constructor
  · rintro ⟨hw, v, hcut, hnames, rfl⟩
    have hv : v ≠ [] := by
      rintro rfl
      exact hw rfl
    exact ⟨hw, v, ⟨hcut, hv, hnames⟩, rfl⟩
  · rintro ⟨hw, v, ⟨hcut, -, hnames⟩, rfl⟩
    exact ⟨hw, v, hcut, hnames, rfl⟩

theorem mentionsDenied_iff {extra : List Text} {t : Text} :
    MentionsDenied extra t ↔ ∃ w ∈ mentionedNames t, w ∈ deniedWords ∨ w ∈ extra := by
  simp only [mem_mentionedNames_iff_nameRun]
  constructor
  · rintro ⟨v, hv, hne, hdenied⟩
    exact ⟨_, ⟨hne, v, hv, rfl⟩, hdenied⟩
  · rintro ⟨_, ⟨hne, v, hv, rfl⟩, hdenied⟩
    exact ⟨v, hv, hne, hdenied⟩

theorem isName_of_mem_mentionedNames {t w : Text} (h : w ∈ mentionedNames t) :
    Shape.isName w = true := by
  obtain ⟨hne, v, hv, rfl⟩ := mem_mentionedNames_iff_nameRun.mp h
  have hnames : ∀ c ∈ v.dropWhile Char.isDigit, isNameChar c = true := fun c hc =>
    hv.names c ((List.dropWhile_sublist _).subset hc)
  have hdigit := List.head_dropWhile_not Char.isDigit hne
  cases hdrop : v.dropWhile Char.isDigit with
  | nil => exact absurd hdrop hne
  | cons c r =>
      simp only [hdrop, List.head_cons] at hdigit
      rw [hdrop, List.forall_mem_cons] at hnames
      rw [Shape.isName, Bool.and_eq_true, List.all_eq_true]
      refine ⟨?_, hnames.2⟩
      simpa [isNameChar, hdigit] using hnames.1

namespace CallShape

/-- What a denied call has behind its keyword. -/
def Continues : CallEnding → Text → Prop
  | .parenthesis, t => ∃ b v, t = b ++ '(' :: v ∧ b.isBlankText = true
  | .dot, t => ∃ b v, t = b ++ '.' :: v ∧ b.isBlankText = true
  | .name, t => ∃ (b : Text) (c : Char) (v : Text),
      t = b ++ c :: v ∧ b.isBlankText = true ∧ b ≠ [] ∧ isNameStart c = true

/-- A denied call stands in a text: its keyword, behind no word character, and what must follow
it. -/
def StandsIn (s : CallShape) (t : Text) : Prop :=
  ∃ u v, t = u ++ (s.keyword ++ v) ∧ (∀ c ∈ u.getLast?, Unicode.isWord c = false) ∧
    Continues s.ending v

theorem head?_trimStart_eq_some_iff {t : Text} {c : Char} (hc : isBlank c = false) :
    (Text.trimStart t).head? = some c ↔ ∃ b v, t = b ++ c :: v ∧ b.isBlankText = true := by
  constructor
  · intro h
    obtain ⟨v, hv⟩ := List.head?_eq_some_iff.mp h
    obtain ⟨b, hb, ht⟩ := Text.exists_trimStart t
    rw [hv] at ht
    exact ⟨b, v, ht, hb⟩
  · rintro ⟨b, v, rfl, hb⟩
    rw [Text.trimStart_blank_append hb, Text.trimStart_cons hc]
    rfl

theorem endsWith_name_iff {t : Text} : endsWith .name t = true ↔ Continues .name t := by
  rw [Continues, endsWith, Bool.and_eq_true, Option.any_eq_true, Option.any_eq_true]
  constructor
  · rintro ⟨⟨d, hd, hblank⟩, c, hc, hname⟩
    obtain ⟨b, v, rfl, hb⟩ := (head?_trimStart_eq_some_iff (isBlank_of_isNameStart hname)).mp hc
    refine ⟨b, c, v, rfl, hb, ?_, hname⟩
    rintro rfl
    obtain rfl : c = d := by simpa using hd
    rw [isBlank_of_isNameStart hname] at hblank
    cases hblank
  · rintro ⟨b, c, v, rfl, hb, hne, hname⟩
    obtain ⟨d, b, rfl⟩ := List.exists_cons_of_ne_nil hne
    refine ⟨⟨d, rfl, Text.isBlankText_iff.mp hb d List.mem_cons_self⟩, c, ?_, hname⟩
    exact (head?_trimStart_eq_some_iff (isBlank_of_isNameStart hname)).mpr ⟨_, v, rfl, hb⟩

theorem endsWith_iff {e : CallEnding} {t : Text} : endsWith e t = true ↔ Continues e t := by
  cases e with
  | parenthesis => exact beq_iff_eq.trans (head?_trimStart_eq_some_iff (by decide))
  | dot => exact beq_iff_eq.trans (head?_trimStart_eq_some_iff (by decide))
  | name => exact endsWith_name_iff

theorem startsAt_iff {s : CallShape} {t : Text} :
    s.startsAt t = true ↔ ∃ v, t = s.keyword ++ v ∧ Continues s.ending v := by
  simp only [startsAt, Option.any_eq_true, Text.after?_eq_some_iff, endsWith_iff]

theorem occursIn_iff_standsIn {s : CallShape} {t : Text} : s.occursIn t = true ↔ s.StandsIn t := by
  rw [occursIn_iff]
  constructor
  · rintro ⟨u, r, rfl, -, hword, hstart⟩
    obtain ⟨v, rfl, hv⟩ := startsAt_iff.mp hstart
    exact ⟨u, v, rfl, hword, hv⟩
  · rintro ⟨u, v, rfl, hword, hv⟩
    have hstart := startsAt_iff.mpr ⟨v, rfl, hv⟩
    refine ⟨u, s.keyword ++ v, rfl, ?_, hword, hstart⟩
    intro hnil
    rw [hnil, startsAt_of_blank rfl] at hstart
    cases hstart

end CallShape

def Refused (extra : List Text) (t : Text) : Prop := ∃ e, check extra t = .error e

theorem refused_iff_ne_ok {extra : List Text} {t : Text} :
    Refused extra t ↔ check extra t ≠ .ok () := by
  rw [Refused]
  cases check extra t with
  | ok u => simp
  | error e => simp

theorem refused_iff {extra : List Text} {t : Text} :
    Refused extra t ↔ MentionsDenied extra t ∨ ∃ s ∈ CallShape.all, s.StandsIn t := by
  rw [refused_iff_ne_ok, ne_eq, check_eq_ok_iff, mentionsDenied_iff]
  simp only [← CallShape.occursIn_iff_standsIn]
  constructor
  · intro h
    by_contra hnone
    push Not at hnone
    obtain ⟨hnames, hcalls⟩ := hnone
    exact h ⟨fun s hs => Bool.eq_false_iff.mpr (hcalls s hs), hnames⟩
  · rintro (⟨w, hw, hdenied⟩ | ⟨s, hs, hstands⟩) ⟨hcalls, hnames⟩
    · exact hdenied.elim (hnames w hw).1 (hnames w hw).2
    · rw [hcalls s hs] at hstands
      cases hstands

/-- Of the extra words only those that a text mentions are of account. -/
theorem check_congr {extra extra' : List Text} {t : Text}
    (h : ∀ w ∈ mentionedNames t, w ∈ extra ↔ w ∈ extra') : check extra t = check extra' t := by
  have hrefused : refused? extra t = refused? extra' t := by
    rw [refused?, refused?]
    split
    · rfl
    · apply List.find?_congr
      intro w hw
      have hcontains : extra.contains w = extra'.contains w := by
        rw [Bool.eq_iff_iff, List.contains_iff_mem, List.contains_iff_mem]
        exact h w hw
      rw [hcontains]
  rw [check, check, hrefused]

theorem check_filter_isName (extra : List Text) (t : Text) :
    check (extra.filter Shape.isName) t = check extra t := by
  apply check_congr
  intro w hw
  rw [List.mem_filter]
  exact and_iff_left (isName_of_mem_mentionedNames hw)

theorem Refused.mono {extra more : List Text} {t : Text} (hmore : extra ⊆ more)
    (h : Refused extra t) : Refused more t := by
  rw [refused_iff] at h ⊢
  refine h.imp_left ?_
  rintro ⟨w, hw, hne, hdenied⟩
  exact ⟨w, hw, hne, hdenied.imp_right fun hextra => hmore hextra⟩

theorem Refused.of_excerpt {extra : List Text} {s t : Text} (h : Excerpt s t)
    (ht : Refused extra t) : Refused extra s := by
  rw [refused_iff_ne_ok] at ht ⊢
  exact fun hs => ht (check_excerpt h hs)

/-- A script is refused just when a denied name or a denied call stands in it. So extra words that
are no names are of no account, more extra words refuse more, and a script that is refused is refused
wherever it stands between separators. -/
theorem refused_exactly (extra : List Text) (t : Text) :
    (Refused extra t ↔ MentionsDenied extra t ∨ ∃ s ∈ CallShape.all, s.StandsIn t) ∧
      check (extra.filter Shape.isName) t = check extra t ∧
      (∀ more, extra ⊆ more → Refused extra t → Refused more t) ∧
      ∀ u v : Text, (∀ c ∈ u.getLast?, isSeparator c = true) →
        (∀ c ∈ v.head?, isSeparator c = true) → Refused extra t → Refused extra (u ++ (t ++ v)) := by
  refine ⟨refused_iff, check_filter_isName extra t, fun more hmore => Refused.mono hmore, ?_⟩
  intro u v hu hv
  exact Refused.of_excerpt ⟨u, v, rfl, hu, hv⟩

/-- An extra word that is no name does not hide the one that is, nor does a third one, nor text
around the script. -/
theorem refused_secret :
    let extra := [Text.lit "1x", Text.lit "secret"]
    let t := Text.lit "upper(secret)"
    Refused extra t ∧ check [Text.lit "secret"] t = check extra t ∧
      Refused (Text.lit "path" :: extra) t ∧
      Refused extra (Text.lit "trim(" ++ (t ++ Text.lit ") + 1")) := by
  intro extra t
  have ht : Refused extra t := ⟨.notAllowed (Text.lit "secret"), by decide +kernel⟩
  obtain ⟨-, hfilter, hmore, haround⟩ := refused_exactly extra t
  have hnames : extra.filter Shape.isName = [Text.lit "secret"] := by decide
  rw [hnames] at hfilter
  refine ⟨ht, hfilter, ?_, ?_⟩
  · exact hmore _ (List.subset_cons_self _ _) ht
  · apply haround _ _ _ _ ht
    · intro c hc
      obtain rfl : '(' = c := Option.some.inj hc
      decide
    · intro c hc
      obtain rfl : ')' = c := Option.some.inj hc
      decide

/-- A run of digits is accepted also when the empty text is an extra word, although nothing else is
left of it without its digits. -/
theorem digits_not_refused :
    ¬∀ (extra : List Text) (t : Text), Refused extra t ↔
      (∃ w, NameRun t w ∧ (w.dropWhile Char.isDigit ∈ deniedWords ∨
        w.dropWhile Char.isDigit ∈ extra)) ∨ ∃ s ∈ CallShape.all, s.StandsIn t := by
  intro h
  have hrun : NameRun ['1'] ['1'] :=
    ⟨.refl _ _, by decide, List.forall_mem_singleton.mpr (by decide)⟩
  have hrefused : Refused [[]] ['1'] := (h _ _).mpr (.inl ⟨['1'], hrun, .inr (by decide)⟩)
  have hok : check [[]] ['1'] = .ok () := by decide +kernel
  rw [refused_iff_ne_ok] at hrefused
  exact hrefused hok

end CopyFormat.Script
