import CopyFormat.Proofs.Substitution.Literal

/-!
How search texts are told apart. A text is a regular expression just when it has a body between its
first and its last slash and flags behind that, whose order does not matter; every other text is
searched for as it stands, if the compiler has room for it. All of this holds for any measure of
the room that programs take.
-/

namespace CopyFormat.Substitution

variable {search body flags flags' : Text}

/-- A search text that is a body between two slashes and flags. No flag is a slash, so the slash
before the flags is the last one of the text. -/
def Splits (search body flags : Text) : Prop :=
  body ≠ [] ∧ flags ≠ [] ∧ (∀ c ∈ flags, c ∈ flagChars) ∧ search = '/' :: (body ++ '/' :: flags)

theorem Splits.slash_not_mem (h : Splits search body flags) : '/' ∉ flags :=
  fun hmem => absurd (h.2.2.1 _ hmem) (by decide)

theorem Splits.slashForm? (h : Splits search body flags) :
    slashForm? search = some (body, flags) := by
  have hslash := h.slash_not_mem
  obtain ⟨hbody, hflags, hchars, rfl⟩ := h
  rw [slashForm?_of_not_mem hslash, if_pos]
  simpa [hbody, hflags] using hchars

theorem slashForm?_eq_some_iff :
    slashForm? search = some (body, flags) ↔ Splits search body flags := by
  constructor
  · intro h
    have hform : IsSlashForm search := by
      by_contra hform
      rw [slashForm?_eq_none_iff.mpr hform] at h
      cases h
    obtain ⟨body', flags', hsplits⟩ : ∃ body flags, Splits search body flags := hform
    rw [hsplits.slashForm?, Option.some.injEq, Prod.mk.injEq] at h
    obtain ⟨rfl, rfl⟩ := h
    exact hsplits
  · exact Splits.slashForm?

def FirstRepeated (flags : Text) (c : Char) : Prop :=
  ∃ before behind, flags = before ++ c :: behind ∧ before.Nodup ∧ c ∈ before

theorem repeatedFlag?_eq_none_iff {seen : List Char} :
    repeatedFlag? seen flags = none ↔ flags.Nodup ∧ ∀ c ∈ flags, c ∉ seen := by
  induction flags generalizing seen with
  | nil => simp [repeatedFlag?]
  | cons d flags ih =>
      rw [repeatedFlag?]
      split
      · rename_i hseen
        have hmem : d ∈ seen := by simpa using hseen
        simp [hmem]
      · rename_i hseen
        have hmem : d ∉ seen := by simpa using hseen
        rw [ih, List.nodup_cons, List.forall_mem_cons]
        constructor
        · rintro ⟨hnodup, hnew⟩
          have hd : d ∉ flags := fun hd => hnew d hd List.mem_cons_self
          exact ⟨⟨hd, hnodup⟩, hmem, fun c hc hs => hnew c hc (List.mem_cons_of_mem d hs)⟩
        · rintro ⟨⟨hd, hnodup⟩, -, hnew⟩
          refine ⟨hnodup, fun c hc hs => ?_⟩
          rcases List.mem_cons.mp hs with rfl | hs
          · exact hd hc
          · exact hnew c hc hs

theorem exists_of_repeatedFlag? {seen : List Char} {c : Char}
    (h : repeatedFlag? seen flags = some c) :
    ∃ before behind, flags = before ++ c :: behind ∧ before.Nodup ∧ (∀ d ∈ before, d ∉ seen) ∧
      (c ∈ before ∨ c ∈ seen) := by
  induction flags generalizing seen with
  | nil => cases h
  | cons d flags ih =>
      rw [repeatedFlag?] at h
      split at h
      · rename_i hseen
        cases h
        exact ⟨[], flags, rfl, List.nodup_nil, by simp, .inr (by simpa using hseen)⟩
      · rename_i hseen
        have hmem : d ∉ seen := by simpa using hseen
        obtain ⟨before, behind, rfl, hnodup, hnew, hc⟩ := ih h
        have hd : d ∉ before := fun hd => hnew d hd List.mem_cons_self
        refine ⟨d :: before, behind, rfl, List.nodup_cons.mpr ⟨hd, hnodup⟩, ?_, ?_⟩
        · rw [List.forall_mem_cons]
          exact ⟨hmem, fun e he hs => hnew e he (List.mem_cons_of_mem d hs)⟩
        · rw [List.mem_cons] at hc ⊢
          tauto

theorem firstRepeated_of_repeatedFlag? {c : Char} (h : repeatedFlag? [] flags = some c) :
    FirstRepeated flags c := by
  obtain ⟨before, behind, hflags, hnodup, -, hc⟩ := exists_of_repeatedFlag? h
  exact ⟨before, behind, hflags, hnodup, hc.resolve_right List.not_mem_nil⟩

theorem repeatedFlag?_eq_none_iff_nodup : repeatedFlag? [] flags = none ↔ flags.Nodup := by
  simp [repeatedFlag?_eq_none_iff]

theorem modesOf_perm (h : flags'.Perm flags) : modesOf flags' = modesOf flags := by
  simp only [modesOf, h.contains_eq]

variable (room : Pattern.Expr → Nat)

/-- The rule for a body that is compiled with flags of which none is repeated. -/
def compiledRule (body flags : Text) : Except PatternError Rule :=
  match Pattern.compile room (modesOf flags) body with
  | .error e => .error (.compile body (e.reason body))
  | .ok p => .ok (.pattern body p (flags.contains 'g') (flags.contains 'y'))

theorem compiledRule_perm (h : flags'.Perm flags) (body : Text) :
    compiledRule room body flags' = compiledRule room body flags := by
  simp only [compiledRule, modesOf_perm h, h.contains_eq]

theorem Splits.parse_of_nodup (h : Splits search body flags) (hflags : flags.Nodup) :
    Rule.parse search room = compiledRule room body flags := by
  rw [Rule.parse, h.slashForm?]
  dsimp only
  rw [repeatedFlag?_eq_none_iff_nodup.mpr hflags]
  rfl

theorem Splits.parse_of_not_nodup (h : Splits search body flags) (hflags : ¬flags.Nodup) :
    ∃ c, FirstRepeated flags c ∧ Rule.parse search room = .error (.duplicateFlag c) := by
  obtain ⟨c, hc⟩ := Option.ne_none_iff_exists'.mp (mt repeatedFlag?_eq_none_iff_nodup.mp hflags)
  refine ⟨c, firstRepeated_of_repeatedFlag? hc, ?_⟩
  rw [Rule.parse, h.slashForm?]
  dsimp only
  rw [hc]

theorem Splits.perm (h : Splits search body flags) (hperm : flags'.Perm flags) :
    Splits ('/' :: (body ++ '/' :: flags')) body flags' := by
  obtain ⟨hbody, hflags, hchars, -⟩ := h
  refine ⟨hbody, ?_, fun c hc => hchars c (hperm.mem_iff.mp hc), rfl⟩
  rintro rfl
  exact hflags hperm.symm.eq_nil

/-- Whether the compiler refuses the escaped text for its size. -/
def IsOversized (search : Text) : Prop :=
  Pattern.compile room {} (Pattern.escape search) = .error (.tooLarge Pattern.roomLimit)

variable {room}

theorem isOversized_iff (hne : search ≠ []) :
    IsOversized room search ↔ Pattern.roomLimit < room (.literal search) := by
  rw [IsOversized, Pattern.compile_escape room hne]
  split <;> simp [*]

theorem parse_of_isOversized (hform : ¬IsSlashForm search) (h : IsOversized room search) :
    Rule.parse search room = .error (.compile search
      (Pattern.CompileError.reason (Pattern.escape search) (.tooLarge Pattern.roomLimit))) := by
  rw [IsOversized] at h
  rw [Rule.parse, slashForm?_eq_none_iff.mpr hform]
  dsimp only
  split
  · rename_i e he
    rw [h] at he
    cases he
    rfl
  · rename_i p hp
    rw [h] at hp
    cases hp

def longText : Text := List.replicate 500000 'a'

theorem longText_not_isSlashForm : ¬IsSlashForm longText := by
  rintro ⟨body, flags, -, -, -, hsearch⟩
  have hslash : '/' ∈ longText := by
    rw [hsearch]
    exact List.mem_cons_self
  have heq : '/' = 'a' := List.eq_of_mem_replicate hslash
  cases heq

theorem stepCount_replicate (c : Char) (n : Nat) :
    (Pattern.Expr.literal (List.replicate n c)).stepCount = n * Pattern.utf8Length c := by
  change ((List.replicate n c).map Pattern.utf8Length).sum = _
  rw [List.map_replicate, List.sum_replicate, smul_eq_mul]

theorem longText_isOversized : IsOversized Pattern.Expr.estimatedRoom longText := by
  have hne : longText ≠ [] := List.ne_nil_of_mem (List.mem_replicate.mpr ⟨by decide, rfl⟩)
  rw [isOversized_iff hne, Pattern.Expr.estimatedRoom, longText, stepCount_replicate]
  decide

/-- The texts with the form of a regular expression, and those only, are read as one: their body
stands between the first and the last slash. The first flag that repeats another one is refused,
whatever the body is, and otherwise the flags can stand in any order. Every other text is searched
for as it stands, everywhere, unless the compiler refuses it for its size. -/
theorem parse_classifies (room : Pattern.Expr → Nat) (search : Text) :
    (∀ body flags, slashForm? search = some (body, flags) ↔ Splits search body flags) ∧
    (∀ body flags, Splits search body flags →
      (¬flags.Nodup →
        ∃ c, FirstRepeated flags c ∧ Rule.parse search room = .error (.duplicateFlag c)) ∧
      (flags.Nodup →
        Rule.parse search room = compiledRule room body flags ∧
          ∀ flags', flags'.Perm flags → modesOf flags' = modesOf flags ∧
            Rule.parse ('/' :: (body ++ '/' :: flags')) room = Rule.parse search room)) ∧
    (¬IsSlashForm search →
      (¬IsOversized room search →
        ∃ needle : Needle, needle.text = search ∧
          Rule.parse search room = .ok (.literal needle) ∧
          (Rule.literal needle).isGlobal = true ∧ (Rule.literal needle).isSticky = false) ∧
      (IsOversized room search →
        ∃ reason, Rule.parse search room = .error (.compile search reason))) := by
  refine ⟨fun body flags => slashForm?_eq_some_iff, ?_, ?_⟩
  · intro body flags hsplits
    refine ⟨hsplits.parse_of_not_nodup room, fun hnodup => ?_⟩
    refine ⟨hsplits.parse_of_nodup room hnodup, fun flags' hperm => ⟨modesOf_perm hperm, ?_⟩⟩
    calc
      Rule.parse ('/' :: (body ++ '/' :: flags')) room = compiledRule room body flags' :=
        (hsplits.perm hperm).parse_of_nodup room (hperm.nodup_iff.mpr hnodup)
      _ = compiledRule room body flags := compiledRule_perm room hperm body
      _ = Rule.parse search room := (hsplits.parse_of_nodup room hnodup).symm
  · intro hform
    constructor
    · intro hsize
      obtain ⟨needle, htext, hparse⟩ := exists_parse_literal hform hsize
      exact ⟨needle, htext, hparse, rfl, rfl⟩
    · intro hsize
      exact ⟨_, parse_of_isOversized hform hsize⟩

/-- Repeated flags behind a body that is no expression, flags in two orders behind a body of a slash
and a line feed, a text between whose slashes nothing stands, and one that is too long. -/
theorem parse_classifies_slashes :
    (Splits (Text.lit "/(/gig") ['('] (Text.lit "gig") ∧ ¬(Text.lit "gig").Nodup ∧
      ∃ c, FirstRepeated (Text.lit "gig") c ∧
        Rule.parse (Text.lit "/(/gig") = .error (.duplicateFlag c)) ∧
    (Splits (Text.lit "//\n/gy") (Text.lit "/\n") (Text.lit "gy") ∧ (Text.lit "gy").Nodup ∧
      (Text.lit "yg").Perm (Text.lit "gy") ∧
      Rule.parse (Text.lit "//\n/yg") = Rule.parse (Text.lit "//\n/gy")) ∧
    (¬IsSlashForm (Text.lit "//g") ∧
      ¬IsOversized Pattern.Expr.estimatedRoom (Text.lit "//g") ∧
      ∃ needle : Needle, needle.text = Text.lit "//g" ∧
        Rule.parse (Text.lit "//g") = .ok (.literal needle)) ∧
    (¬IsSlashForm longText ∧ IsOversized Pattern.Expr.estimatedRoom longText ∧
      ∃ reason, Rule.parse longText = .error (.compile longText reason)) := by
  refine ⟨?_, ?_, ?_, ?_⟩
  · have hsplits : Splits (Text.lit "/(/gig") ['('] (Text.lit "gig") := slashForm?_eq_some_iff.mp rfl
    have hrepeated : ¬(Text.lit "gig").Nodup := by decide
    exact ⟨hsplits, hrepeated, ((parse_classifies _ _).2.1 _ _ hsplits).1 hrepeated⟩
  · have hsplits : Splits (Text.lit "//\n/gy") (Text.lit "/\n") (Text.lit "gy") :=
      slashForm?_eq_some_iff.mp rfl
    have hnodup : (Text.lit "gy").Nodup := by decide
    have hperm : (Text.lit "yg").Perm (Text.lit "gy") := by decide
    obtain ⟨-, horder⟩ := ((parse_classifies _ _).2.1 _ _ hsplits).2 hnodup
    exact ⟨hsplits, hnodup, hperm, (horder _ hperm).2⟩
  · have hform : ¬IsSlashForm (Text.lit "//g") := slashForm?_eq_none_iff.mp rfl
    have hsize : ¬IsOversized Pattern.Expr.estimatedRoom (Text.lit "//g") := by
      rw [isOversized_iff (by decide)]
      decide
    obtain ⟨needle, htext, hparse, -⟩ := ((parse_classifies _ _).2.2 hform).1 hsize
    exact ⟨hform, hsize, needle, htext, hparse⟩
  · exact ⟨longText_not_isSlashForm, longText_isOversized,
      ((parse_classifies _ _).2.2 longText_not_isSlashForm).2 longText_isOversized⟩

/-- Half a million characters in a row are no regular expression, and no literal either. -/
theorem not_literal_of_oversized :
    ¬∀ search, ¬IsSlashForm search →
      ∃ needle : Needle, Rule.parse search = .ok (.literal needle) := by
  intro h
  obtain ⟨needle, hneedle⟩ := h longText longText_not_isSlashForm
  rw [parse_of_isOversized longText_not_isSlashForm longText_isOversized] at hneedle
  cases hneedle

end CopyFormat.Substitution
