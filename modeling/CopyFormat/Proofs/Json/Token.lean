import Mathlib
import CopyFormat.Json.Printer
import CopyFormat.Json.Reader
import CopyFormat.Proofs.Text.Character

/-!
Single tokens of JSON texts are read back as what was written.
-/

namespace CopyFormat.Json

/-! ### Quoted texts -/

theorem hexQuad?_control {n : Nat} (h : n < 0x20) :
    hexQuad? '0' '0' (hexDigit (n / 16)) (hexDigit (n % 16)) = some n := by
  have hall : ∀ n < 0x20,
      hexQuad? '0' '0' (hexDigit (n / 16)) (hexDigit (n % 16)) = some n := by decide
  exact hall n h

theorem bind_eq_map (o : Option (Text × Text)) (c : Char) :
    (do let q ← o; some (c :: q.1, q.2)) = o.map fun q => (c :: q.1, q.2) := by
  cases o <;> rfl

theorem readQuoted_simple {e c : Char} (h : simpleEscape? e = some c) (rest : Text) :
    readQuoted ('\\' :: e :: rest) = (readQuoted rest).map fun q => (c :: q.1, q.2) := by
  rw [readQuoted, h]
  · exact bind_eq_map _ c
  · rintro a b d e' r rfl -
    cases h

theorem readQuoted_escapeChar (c : Char) (rest : Text) :
    readQuoted (escapeChar c ++ rest) =
      (readQuoted rest).map fun q => (c :: q.1, q.2) := by
  unfold escapeChar
  split
  · exact readQuoted_simple rfl rest
  · exact readQuoted_simple rfl rest
  · exact readQuoted_simple rfl rest
  · exact readQuoted_simple rfl rest
  · exact readQuoted_simple rfl rest
  · exact readQuoted_simple rfl rest
  · exact readQuoted_simple rfl rest
  · split
    · rename_i hcontrol
      have hplain : ¬(0xD800 ≤ c.toNat ∧ c.toNat < 0xE000) := by omega
      simp only [List.cons_append, List.nil_append]
      rw [readQuoted, hexQuad?_control hcontrol]
      simp only [Option.bind_eq_bind, Option.bind_some, if_neg hplain, Char.ofNat_toNat]
      exact bind_eq_map _ c
    · rename_i hquote hbackslash _ _ _ _ _ hcontrol
      rw [List.singleton_append, readQuoted]
      · rw [if_neg hcontrol]
      · exact hquote
      · rintro a b d e r rfl -
        exact hbackslash rfl
      · rintro d r rfl -
        exact hbackslash rfl

theorem readQuoted_escaped (t rest : Text) :
    readQuoted (t.flatMap escapeChar ++ '"' :: rest) = some (t, rest) := by
  induction t with
  | nil => simp [readQuoted]
  | cons c t ih => rw [List.flatMap_cons, List.append_assoc, readQuoted_escapeChar, ih]; rfl

/-! ### Whole numbers -/

theorem ofDigitChars_le (t : Text) (n : Nat) : n ≤ Nat.ofDigitChars 10 t n := by
  induction t generalizing n with
  | nil => simp
  | cons c t ih =>
      have := ih (10 * n + (c.toNat - '0'.toNat))
      rw [Nat.ofDigitChars_cons]
      omega

theorem takeSignificand_eq {t : Text} {n : Nat} (h : Nat.ofDigitChars 10 t n ≤ maxSignificand) :
    takeSignificand n t = (Nat.ofDigitChars 10 t n, 0) := by
  induction t generalizing n with
  | nil => simp [takeSignificand]
  | cons c t ih =>
      rw [Nat.ofDigitChars_cons] at h ⊢
      have hle := ofDigitChars_le t (10 * n + (c.toNat - '0'.toNat))
      have hnext : n * 10 + (c.toNat - 0x30) = 10 * n + (c.toNat - '0'.toNat) := by
        rw [Nat.mul_comm]
        rfl
      rw [takeSignificand]
      simp only [hnext]
      rw [if_pos (by omega), ih h]

theorem isDigit_of_mem_ofNat {n : Nat} : ∀ c ∈ Text.ofNat n, c.isDigit = true :=
  fun _ hc => Nat.isDigit_of_mem_toDigits (by decide) (by decide) hc

theorem takeDigits_ofNat (n : Nat) : takeDigits (Text.ofNat n) = (Text.ofNat n, []) := by
  have htake : (Text.ofNat n).takeWhile Char.isDigit = Text.ofNat n :=
    List.takeWhile_eq_self_iff.mpr isDigit_of_mem_ofNat
  have hdrop : (Text.ofNat n).dropWhile Char.isDigit = [] :=
    List.dropWhile_eq_nil_iff.mpr isDigit_of_mem_ofNat
  rw [takeDigits, htake, hdrop]

theorem digitChar_ne_zero {d : Nat} (hpos : 0 < d) (hlt : d < 10) : d.digitChar ≠ '0' := by
  have hall : ∀ d < 10, 0 < d → d.digitChar ≠ '0' := by decide
  exact hall d hlt hpos

theorem ofNat_head? {n : Nat} (h : 0 < n) : (Text.ofNat n).head? ≠ some '0' := by
  induction n using Nat.strong_induction_on with
  | _ n ih =>
      rcases Nat.lt_or_ge n 10 with hlt | hge
      · rw [Text.ofNat, Nat.toDigits_of_lt_base hlt]
        simpa using digitChar_ne_zero h hlt
      · have hdiv : 0 < n / 10 := by omega
        have hrest := ih (n / 10) (by omega) hdiv
        obtain ⟨c, r, hcr⟩ :=
          List.exists_cons_of_ne_nil (Nat.toDigits_ne_nil (n := n / 10) (b := 10))
        rw [Text.ofNat, hcr] at hrest
        rw [Text.ofNat, Nat.toDigits_of_base_le (by decide) hge, hcr]
        exact hrest

theorem ofNat_leading (n : Nat) :
    ((Text.ofNat n).isEmpty ||
      ((Text.ofNat n).head? == some '0' && decide (1 < (Text.ofNat n).length))) = false := by
  have hempty : (Text.ofNat n).isEmpty = false := by
    rw [Bool.eq_false_iff, ne_eq, List.isEmpty_iff]
    exact Nat.toDigits_ne_nil
  rcases Nat.eq_zero_or_pos n with rfl | hpos
  · rfl
  · have hhead : ((Text.ofNat n).head? == some '0') = false :=
      beq_eq_false_iff_ne.mpr (ofNat_head? hpos)
    rw [hempty, hhead]
    rfl

theorem numeral_natural (n : Nat) :
    Numeral.ofText? (Text.ofNat n) =
      some { negative := false, whole := Text.ofNat n, fraction := none, exponent := none } := by
  have hhead : ((Text.ofNat n).head? == some '-') = false := by
    rw [beq_eq_false_iff_ne]
    intro hhead
    exact absurd (isDigit_of_mem_ofNat _ (List.mem_of_head? hhead)) (by decide)
  rw [Numeral.ofText?]
  simp only [hhead, Bool.false_eq_true, if_false, takeDigits_ofNat, ofNat_leading, readFraction,
    readExponent, Option.bind_eq_bind, Option.bind_some, List.isEmpty_nil, if_true]
  rfl

theorem numeral_negative (n : Nat) :
    Numeral.ofText? ('-' :: Text.ofNat n) =
      some { negative := true, whole := Text.ofNat n, fraction := none, exponent := none } := by
  have hhead : (('-' :: Text.ofNat n).head? == some '-') = true := rfl
  rw [Numeral.ofText?]
  simp only [hhead, if_true, List.drop_succ_cons, List.drop_zero, takeDigits_ofNat, ofNat_leading,
    Bool.false_eq_true, if_false, readFraction, readExponent, Option.bind_eq_bind,
    Option.bind_some, List.isEmpty_nil]
  rfl

/-- Whether a whole number fits into 64 bits, with or without a sign. -/
def FitsWhole (n : Int) : Prop := minWhole ≤ n ∧ n ≤ maxWhole

theorem ofText?_wholeText {n : Int} (h : FitsWhole n) :
    Number.ofText? (wholeText n) = some (.whole n) := by
  obtain ⟨hmin, hmax⟩ := h
  have habs : n.natAbs ≤ maxSignificand := by
    rw [minWhole] at hmin
    rw [maxWhole] at hmax
    rw [maxSignificand]
    omega
  have hvalue : Nat.ofDigitChars 10 (Text.ofNat n.natAbs) 0 = n.natAbs :=
    Nat.ofDigitChars_ten_toDigits
  have htake := takeSignificand_eq (t := Text.ofNat n.natAbs) (n := 0) (by rw [hvalue]; exact habs)
  rw [hvalue] at htake
  rcases lt_or_ge n 0 with hneg | hpos
  · have hn : -(n.natAbs : Int) = n := by omega
    have hsmall : 1 ≤ n.natAbs ∧ minWhole ≤ -(n.natAbs : Int) := by
      rw [hn]
      exact ⟨by omega, hmin⟩
    rw [wholeText, if_pos hneg, Number.ofText?, numeral_negative]
    simp only [Option.bind_eq_bind, Option.bind_some, htake]
    rw [if_neg (by simp), if_neg (by simp), if_pos hsmall, hn]
    rfl
  · have hn : (n.natAbs : Int) = n := by omega
    rw [wholeText, if_neg (by omega), Number.ofText?, numeral_natural]
    simp only [Option.bind_eq_bind, Option.bind_some, htake]
    rw [if_neg (by simp), if_pos (by simp), hn]
    rfl

/-! ### Integers -/

/-- Whether a number is an integer of 64 bits; minus zero is one, though it is not kept as a whole
number. -/
def Number.IsInteger : Number → Prop
  | .whole n => FitsWhole n
  | .real x => x = -0.0

theorem Number.IsInteger.ofText?_print {n : Number} (h : n.IsInteger) :
    Number.ofText? n.print = some n := by
  cases n with
  | whole n => exact ofText?_wholeText h
  | real x =>
      cases h
      rfl

/-! ### The text of a number -/

theorem isNumberChar_of_isDigit {c : Char} (h : c.isDigit = true) : isNumberChar c = true := by
  simp [isNumberChar, h]

/-- Whether a text starts as a number does and has only characters of numbers. -/
structure IsNumberText (t : Text) : Prop where
  chars : ∀ c ∈ t, isNumberChar c = true
  head : ∃ c, t.head? = some c ∧ (c.isDigit = true ∨ c = '-')

theorem IsNumberText.append {t u : Text} (ht : IsNumberText t)
    (hu : ∀ c ∈ u, isNumberChar c = true) : IsNumberText (t ++ u) where
  chars := List.forall_mem_append.mpr ⟨ht.chars, hu⟩
  head := by
    obtain ⟨c, hhead, hc⟩ := ht.head
    exact ⟨c, by rw [List.head?_append, hhead]; rfl, hc⟩

theorem IsNumberText.negative {t : Text} (ht : IsNumberText t) : IsNumberText ('-' :: t) where
  chars := List.forall_mem_cons.mpr ⟨by decide, ht.chars⟩
  head := ⟨'-', rfl, .inr rfl⟩

theorem isNumberText_digits {t : Text} (hne : t ≠ []) (ht : ∀ c ∈ t, c.isDigit = true) :
    IsNumberText t where
  chars := fun c hc => isNumberChar_of_isDigit (ht c hc)
  head := by
    obtain ⟨c, r, rfl⟩ := List.exists_cons_of_ne_nil hne
    exact ⟨c, rfl, .inl (ht c List.mem_cons_self)⟩

theorem isNumberText_ofNat (n : Nat) : IsNumberText (Text.ofNat n) :=
  isNumberText_digits Nat.toDigits_ne_nil isDigit_of_mem_ofNat

theorem isNumberText_wholeText (n : Int) : IsNumberText (wholeText n) := by
  rw [wholeText]
  split
  · exact (isNumberText_ofNat _).negative
  · exact isNumberText_ofNat _

theorem isNumberChar_replicate_zero (n : Nat) :
    ∀ c ∈ List.replicate n '0', isNumberChar c = true := by
  intro c hc
  rw [List.eq_of_mem_replicate hc]
  decide

variable {l : Decimal.Layout}

theorem isNumberText_writtenOut (hending : ∀ c ∈ l.wholeEnding, isNumberChar c = true) {t : Text}
    (hne : t ≠ []) (ht : ∀ c ∈ t, c.isDigit = true) (e : Int) :
    IsNumberText (l.writtenOut t e) := by
  have hchars : ∀ c ∈ t, isNumberChar c = true := (isNumberText_digits hne ht).chars
  rw [Decimal.Layout.writtenOut]
  split
  · exact ((isNumberText_digits hne ht).append (isNumberChar_replicate_zero _)).append hending
  · dsimp only
    split
    · refine (isNumberText_digits ?_ fun c hc => ht c (List.mem_of_mem_take hc)).append ?_
      · rw [ne_eq, List.take_eq_nil_iff, not_or]
        exact ⟨by omega, hne⟩
      · exact List.forall_mem_cons.mpr ⟨by decide, fun c hc => hchars c (List.mem_of_mem_drop hc)⟩
    · have hzero : IsNumberText ['0'] := isNumberText_ofNat 0
      refine hzero.append (List.forall_mem_cons.mpr ⟨by decide, ?_⟩)
      exact List.forall_mem_append.mpr ⟨isNumberChar_replicate_zero _, hchars⟩

theorem isNumberText_pointed {t : Text} (hne : t ≠ []) (ht : ∀ c ∈ t, c.isDigit = true) :
    IsNumberText (Decimal.Layout.pointed t) := by
  obtain ⟨c, r, rfl⟩ := List.exists_cons_of_ne_nil hne
  cases r with
  | nil => exact isNumberText_digits hne ht
  | cons d r =>
      obtain ⟨hc, hr⟩ := List.forall_mem_cons.mp ht
      refine (isNumberText_digits (t := [c]) (by simp) (by simpa using hc)).append ?_
      exact List.forall_mem_cons.mpr ⟨by decide, fun d hd => isNumberChar_of_isDigit (hr d hd)⟩

theorem isNumberChar_exponentText (hplus : ∀ c ∈ l.plus, isNumberChar c = true) (e : Int) :
    ∀ c ∈ l.exponentText e, isNumberChar c = true := by
  rw [Decimal.Layout.exponentText]
  split
  · exact (isNumberText_ofNat _).negative.chars
  · exact List.forall_mem_append.mpr ⟨hplus, (isNumberText_ofNat _).chars⟩

theorem isNumberText_decimal (hending : ∀ c ∈ l.wholeEnding, isNumberChar c = true)
    (hplus : ∀ c ∈ l.plus, isNumberChar c = true) (s : Decimal.Shortest) :
    IsNumberText (l.decimal s) := by
  rw [Decimal.Layout.decimal]
  split
  · exact isNumberText_writtenOut hending Nat.toDigits_ne_nil isDigit_of_mem_ofNat _
  · refine (isNumberText_pointed Nat.toDigits_ne_nil isDigit_of_mem_ofNat).append ?_
    exact List.forall_mem_cons.mpr ⟨by decide, isNumberChar_exponentText hplus _⟩

theorem Number.print_cases (n : Number) :
    IsNumberText n.print ∨ n.print = Text.lit "null" ∨ n.print = Text.lit "-null" := by
  cases n with
  | whole n => exact .inl (isNumberText_wholeText n)
  | real x =>
      rw [Number.print, Decimal.Layout.number]
      split
      · exact .inr (.inl rfl)
      · split
        · exact .inr (.inr rfl)
        · exact .inr (.inl rfl)
      · split
        · exact .inl ⟨List.all_eq_true.mp (by decide), '-', rfl, .inr rfl⟩
        · exact .inl ⟨List.all_eq_true.mp (by decide), '0', rfl, .inl (by decide)⟩
      · have hdecimal := fun s => isNumberText_decimal (l := Decimal.storedLayout)
          (List.all_eq_true.mp (by decide)) (List.all_eq_true.mp (by decide)) s
        dsimp only
        split
        · exact .inl (hdecimal _).negative
        · exact .inl (hdecimal _)

/-! ### Tokens -/

theorem token?_quote (t rest : Text) : token? (quote t ++ rest) = some (.text t, rest) := by
  have hread := readQuoted_escaped t rest
  have hquote : quote t ++ rest = '"' :: (t.flatMap escapeChar ++ '"' :: rest) := by
    simp [quote]
  rw [hquote, token?, hread]
  rfl

theorem isSpace_of_isDigit {c : Char} (h : c.isDigit = true) : isSpace c = false := by
  have hc : c ∉ [' ', '\n', '\t', '\r'] := not_mem_of_class (by decide) h
  simpa [isSpace, and_assoc] using hc

theorem token?_numberChar {c : Char} (hc : c.isDigit = true ∨ c = '-') (t : Text) :
    token? (c :: t) = (Number.ofText? ((c :: t).takeWhile isNumberChar)).map fun n =>
      (.number n, (c :: t).dropWhile isNumberChar) := by
  have hother : c ∉ ['[', ']', '\x7b', '\x7d', ',', ':', '"', 'n', 't', 'f'] := by
    rcases hc with hc | rfl
    · exact not_mem_of_class (by decide) hc
    · decide
  rw [token?]
  · intro hnil
    cases hnil
  all_goals
    intro r heq
    cases heq
    exact hother (by decide)

/-- No number goes on at the start of the text. -/
def EndsNumber (t : Text) : Prop := ∀ c, t.head? = some c → isNumberChar c = false

theorem token?_numberText {t rest : Text} (ht : IsNumberText t) (hrest : EndsNumber rest) :
    token? (t ++ rest) = (Number.ofText? t).map fun n => (.number n, rest) := by
  obtain ⟨c, hhead, hc⟩ := ht.head
  have htake : rest.takeWhile isNumberChar = [] := by
    cases rest with
    | nil => rfl
    | cons d r => rw [List.takeWhile_cons_of_neg (by simp [hrest d rfl])]
  have hdrop : rest.dropWhile isNumberChar = rest := by
    cases rest with
    | nil => rfl
    | cons d r => rw [List.dropWhile_cons_of_neg (by simp [hrest d rfl])]
  obtain ⟨r, rfl⟩ := List.head?_eq_some_iff.mp hhead
  have htoken := token?_numberChar hc (r ++ rest)
  rwa [← List.cons_append, List.takeWhile_append_of_pos ht.chars, htake, List.append_nil,
    List.dropWhile_append_of_pos ht.chars, hdrop] at htoken

end CopyFormat.Json
