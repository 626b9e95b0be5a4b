import CopyFormat.Proofs.Script.Bytes

/-!
The reader of quoted texts and the scan agree on where a quoted text ends. The scan goes by bytes, and
the reader by characters, so that a backslash takes different things along; what is left of the
character closes nothing.
-/

namespace CopyFormat.Script

variable {c q : Char} {s t : Text}

/-- The quote `q`, which is open before the text, is closed by its last character and not before. -/
def ClosesAtEnd (q : Char) (t : Text) : Prop :=
  quoteBehind (some q) t = none ∧ ∀ k < t.length, quoteBehind (some q) (t.take k) ≠ none

theorem quoteBehind_cons (hc : c ≠ '\\') (t : Text) :
    quoteBehind (some q) (c :: t) = quoteBehind (if c = q then none else some q) t := by
  rw [quoteBehind]
  · rintro rfl
    exact absurd rfl hc
  · rintro d r rfl
    exact absurd rfl hc

theorem not_closesAtEnd_nil (q : Char) : ¬ClosesAtEnd q [] := nofun

theorem closesAtEnd_cons_iff (hback : c ≠ '\\') (hc : c ≠ q) :
    ClosesAtEnd q (c :: t) ↔ ClosesAtEnd q t := by
  have hskip : ∀ u : Text, quoteBehind (some q) (c :: u) = quoteBehind (some q) u := by
    intro u
    rw [quoteBehind_cons hback, if_neg hc]
  rw [ClosesAtEnd, ClosesAtEnd, hskip, List.length_cons, Nat.forall_lt_succ_left']
  simp [hskip, quoteBehind]

theorem closesAtEnd_quote_iff (hq : q ≠ '\\') : ClosesAtEnd q (q :: t) ↔ t = [] := by
  have hclose : ∀ u : Text, quoteBehind (some q) (q :: u) = quoteBehind none u := by
    intro u
    rw [quoteBehind_cons hq, if_pos rfl]
  constructor
  · rintro ⟨-, hopen⟩
    by_contra hne
    have hlength := List.length_pos_iff.mpr hne
    refine hopen 1 (Nat.succ_lt_succ hlength) ?_
    rw [List.take_succ_cons, List.take_zero, hclose]
    rfl
  · rintro rfl
    refine ⟨hclose [], fun k hk => ?_⟩
    obtain rfl : k = 0 := Nat.lt_one_iff.mp hk
    exact nofun

theorem closesAtEnd_escape_iff (q d : Char) (t : Text) :
    ClosesAtEnd q ('\\' :: d :: t) ↔ ClosesAtEnd q t := by
  have hskip : ∀ u : Text, quoteBehind (some q) ('\\' :: d :: u) = quoteBehind (some q) u :=
    fun u => rfl
  rw [ClosesAtEnd, ClosesAtEnd, hskip, List.length_cons, List.length_cons,
    Nat.forall_lt_succ_left', Nat.forall_lt_succ_left']
  simp [hskip, quoteBehind]

theorem closesAtEnd_wide_append_iff (hq : isQuote q = true) (ht : ∀ d ∈ t, 128 ≤ d.toNat)
    (u : Text) : ClosesAtEnd q (t ++ u) ↔ ClosesAtEnd q u := by
  induction t with
  | nil => rfl
  | cons d t ih =>
      obtain ⟨hd, ht⟩ := List.forall_mem_cons.mp ht
      rw [List.cons_append, closesAtEnd_cons_iff (ne_of_wide (by decide) hd)
        (ne_of_wide (toNat_lt_of_isQuote hq) hd), ih ht]

theorem closesAtEnd_bytesOf_append_iff (hq : isQuote q = true) (hback : c ≠ '\\') (hc : c ≠ q)
    (u : Text) : ClosesAtEnd q (Text.bytesOf c ++ u) ↔ ClosesAtEnd q u := by
  by_cases hascii : c.toNat < 128
  · rw [Text.bytesOf_ascii hascii, List.singleton_append, closesAtEnd_cons_iff hback hc]
  · exact closesAtEnd_wide_append_iff hq
      (fun d hd => Text.le_of_mem_bytesOf (Nat.le_of_not_lt hascii) hd) u

/-- What the reader of quoted texts takes is what the scan closes at the last byte. -/
theorem unquoteBehind_isSome_iff (hq : isQuote q = true) (t : Text) :
    (unquoteBehind q t).isSome = true ↔ ClosesAtEnd q t.bytes := by
  have hback := ne_backslash_of_isQuote hq
  fun_induction unquoteBehind q t with
  | case1 => simp [Text.bytes, not_closesAtEnd_nil]
  | case2 =>
      rw [Text.bytes_cons, Text.bytesOf_ascii (toNat_lt_of_isQuote hq), List.singleton_append,
        closesAtEnd_quote_iff hback]
      simp [Text.bytes]
  | case3 c hc =>
      apply iff_of_false Bool.false_ne_true
      by_cases hc' : c = '\\'
      · rw [hc']
        exact nofun
      · rw [Text.bytes_cons, closesAtEnd_bytesOf_append_iff hq hc' hc]
        exact not_closesAtEnd_nil q
  | case4 d r ih =>
      -- the backslash takes the first byte of `d`, and the others are read on their own
      obtain ⟨b, bs, hd, hbs⟩ := Text.bytesOf_eq_cons d
      rw [Text.bytes_cons, Text.bytes_cons, Text.bytesOf_ascii (by decide), hd,
        List.singleton_append, List.cons_append, closesAtEnd_escape_iff,
        closesAtEnd_wide_append_iff hq hbs, Option.isSome_map]
      exact ih
  | case5 r hne hpair =>
      rw [Text.bytes_cons, Text.bytesOf_ascii (toNat_lt_of_isQuote hq), List.singleton_append,
        closesAtEnd_quote_iff hback, Text.bytes_eq_nil_iff]
      exact iff_of_false Bool.false_ne_true hne
  | case6 c r hne hpair hc ih =>
      have hc' : c ≠ '\\' := ne_backslash (fun _ => hne) hpair
      rw [Text.bytes_cons, closesAtEnd_bytesOf_append_iff hq hc' hc, Option.isSome_map]
      exact ih

theorem isLeast_closed_iff (hq : isQuote q = true) (b : Text) :
    IsLeast {k | k < (q :: b).length ∧ quoteBehind none ((q :: b).take (k + 1)) = none} b.length ↔
      ClosesAtEnd q b := by
  have hopen : ∀ u : Text, quoteBehind none (q :: u) = quoteBehind (some q) u := by
    intro u
    rw [quoteBehind, if_pos hq]
  constructor
  · rintro ⟨⟨-, hclosed⟩, hleast⟩
    rw [List.take_succ_cons, hopen, List.take_length] at hclosed
    refine ⟨hclosed, fun k hk hk' => ?_⟩
    refine absurd (hleast ⟨Nat.lt_succ_of_lt hk, ?_⟩) (Nat.not_le_of_lt hk)
    rw [List.take_succ_cons, hopen, hk']
  · rintro ⟨hclosed, hbefore⟩
    refine ⟨⟨Nat.lt_succ_self _, ?_⟩, ?_⟩
    · rw [List.take_succ_cons, hopen, List.take_length, hclosed]
    · rintro k ⟨hk, hk'⟩
      rw [List.take_succ_cons, hopen] at hk'
      by_contra hlt
      exact hbefore k (Nat.lt_of_not_le hlt) hk'

theorem ClosesAtEnd.length_pos (h : ClosesAtEnd q t) : 0 < t.length := by
  rw [List.length_pos_iff]
  rintro rfl
  exact not_closesAtEnd_nil q h

theorem unquote?_isSome_iff (s : Text) :
    (unquote? s).isSome = true ↔
      (∃ q ∈ s.head?, isQuote q = true) ∧
        IsLeast {k | k < s.bytes.length ∧ quoteBehind none (s.bytes.take (k + 1)) = none}
          (s.bytes.length - 1) ∧
        0 < s.bytes.length - 1 := by
  cases s with
  | nil => simp [unquote?]
  | cons q t =>
      by_cases hq : isQuote q = true
      · have hlength : (q :: Text.bytes t).length - 1 = (Text.bytes t).length := rfl
        rw [unquote?, if_pos hq, unquoteBehind_isSome_iff hq, Text.bytes_cons,
          Text.bytesOf_ascii (toNat_lt_of_isQuote hq), List.singleton_append, hlength,
          isLeast_closed_iff hq]
        constructor
        · intro hclosed
          exact ⟨⟨q, rfl, hq⟩, hclosed, hclosed.length_pos⟩
        · rintro ⟨-, hclosed, -⟩
          exact hclosed
      · simp [unquote?, hq]

/-- A text is read as a quoted one just when a quote opens it which the scan of its bytes finds closed
at the last one first; and what is quoted is read as it was. -/
theorem quoted_texts_agree :
    (∀ s, (unquote? s).isSome = true ↔
      (∃ q ∈ s.head?, isQuote q = true) ∧
        IsLeast {k | k < s.bytes.length ∧ quoteBehind none (s.bytes.take (k + 1)) = none}
          (s.bytes.length - 1) ∧
        0 < s.bytes.length - 1) ∧
      ∀ q x, isQuote q = true → unquote? (quoted q x) = some x :=
  ⟨unquote?_isSome_iff, fun _ x hq => unquote?_quoted hq x⟩

/-- A backslash before a character of two bytes, and one before the closing quote. -/
theorem quoted_texts_agree_wide :
    let s := "'a\\é'".toList
    isQuote '\'' = true ∧ unquote? (quoted '\'' "\\é'".toList) = some "\\é'".toList ∧
      (unquote? s).isSome = true ∧
      IsLeast {k | k < (Text.bytes s).length ∧
        quoteBehind none ((Text.bytes s).take (k + 1)) = none} 5 := by
  intro s
  obtain ⟨hread, hquoted⟩ := quoted_texts_agree
  have hq : isQuote '\'' = true := by decide
  have hs : (unquote? s).isSome = true := by decide
  exact ⟨hq, hquoted '\'' _ hq, hs, ((hread s).mp hs).2.1⟩

end CopyFormat.Script
