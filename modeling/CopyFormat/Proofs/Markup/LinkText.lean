import Mathlib.Algebra.Group.Nat.Even
import Mathlib.Data.List.DropRight
import CopyFormat.Preset.Builtin

/-!
Reading the text of a Markdown link back. A link writes a backslash in front of every bracket of the
title and leaves backslashes alone. So a bracket behind a backslash of the title has two of them in
front, which stand for one backslash, and is no longer escaped; and a backslash that the title ends
with takes the closing bracket of the link along. A link can be read back just when neither happens.
-/

namespace CopyFormat.Markup

/-! ### Backslash escapes -/

/-- The characters that a backslash can escape, the punctuation of ASCII. -/
def isPunctuation (c : Char) : Bool :=
  let n := c.toNat
  (33 ≤ n && n ≤ 47) || (58 ≤ n && n ≤ 64) || (91 ≤ n && n ≤ 96) || (123 ≤ n && n ≤ 126)

/-- A character of a text that is read with backslash escapes. -/
inductive Token
  | plain (c : Char)
  | escaped (c : Char)
  deriving DecidableEq, Repr

def Token.text : Token → Text
  | plain c => [c]
  | escaped c => ['\\', c]

/-- Reads a text from left to right, behind a backslash that has not been read yet or behind
nothing. -/
def tokensBehind : Bool → Text → List Token
  | false, [] => []
  | true, [] => [.plain '\\']
  | false, c :: r => if c = '\\' then tokensBehind true r else .plain c :: tokensBehind false r
  | true, c :: r =>
      if isPunctuation c then .escaped c :: tokensBehind false r
      else .plain '\\' :: .plain c :: tokensBehind false r

def tokens (t : Text) : List Token := tokensBehind false t

def pending (b : Bool) : Text := if b then ['\\'] else []

theorem flatMap_text_tokensBehind (b : Bool) (t : Text) :
    (tokensBehind b t).flatMap Token.text = pending b ++ t := by
  induction t generalizing b with
  | nil => cases b <;> rfl
  | cons c r ih =>
      cases b with
      | false =>
          rw [tokensBehind]
          split
          · rename_i hc
            rw [ih, hc]
            rfl
          · rw [List.flatMap_cons, ih]
            rfl
      | true =>
          rw [tokensBehind]
          split
          · rw [List.flatMap_cons, ih]
            rfl
          · rw [List.flatMap_cons, List.flatMap_cons, ih]
            rfl

theorem flatMap_text_tokens (t : Text) : (tokens t).flatMap Token.text = t :=
  flatMap_text_tokensBehind false t

/-! ### Titles -/

def IsBracket (c : Char) : Prop := c = '[' ∨ c = ']'

instance (c : Char) : Decidable (IsBracket c) := inferInstanceAs (Decidable (_ ∨ _))

def backslashes (t : Text) : Nat := (t.rtakeWhile (· = '\\')).length

/-- The backslashes in front of every bracket of a title, and those at its end, are even in
number. -/
def EvenlyEscaped (t : Text) : Prop :=
  ∀ u v, t = u ++ v → (∀ c ∈ v.head?, IsBracket c) → Even (backslashes u)

/-- The same, read from left to right behind a backslash or behind nothing. -/
def EvenlyBehind : Bool → Text → Prop
  | b, [] => b = false
  | b, c :: r =>
      if c = '\\' then EvenlyBehind (!b) r else (IsBracket c → b = false) ∧ EvenlyBehind false r

theorem backslashes_concat (u : Text) (c : Char) :
    backslashes (u ++ [c]) = if c = '\\' then backslashes u + 1 else 0 := by
  rw [backslashes, List.rtakeWhile_concat]
  by_cases hc : c = '\\'
  · simp [hc, backslashes]
  · simp [hc]

theorem forall_cons_eq_append {c : Char} {r : Text} {P : Text → Text → Prop} :
    (∀ w x, c :: r = w ++ x → P w x) ↔ P [] (c :: r) ∧ ∀ w x, r = w ++ x → P (c :: w) x := by
  constructor
  · intro h
    refine ⟨h [] (c :: r) rfl, ?_⟩
    rintro w x rfl
    exact h (c :: w) x rfl
  · rintro ⟨hnil, hcons⟩ w x h
    cases w with
    | nil =>
        rw [List.nil_append] at h
        rwa [← h]
    | cons d w =>
        obtain ⟨rfl, rfl⟩ := List.cons.inj h
        exact hcons w x rfl

theorem evenlyBehind_iff {b : Bool} {u v : Text} (hb : b = false ↔ Even (backslashes u)) :
    EvenlyBehind b v ↔
      ∀ w x, v = w ++ x → (∀ c ∈ x.head?, IsBracket c) → Even (backslashes (u ++ w)) := by
  induction v generalizing b u with
  | nil =>
      rw [EvenlyBehind, hb]
      constructor
      · intro h w x hwx _
        obtain ⟨rfl, rfl⟩ := List.nil_eq_append_iff.mp hwx
        rwa [List.append_nil]
      · intro h
        simpa using h [] [] rfl
  | cons c r ih =>
      rw [forall_cons_eq_append, EvenlyBehind]
      by_cases hc : c = '\\'
      · have hnext : (!b) = false ↔ Even (backslashes (u ++ [c])) := by
          rw [backslashes_concat, if_pos hc, Nat.even_add_one, ← hb]
          simp
        have hbracket : ¬IsBracket c := by
          rw [hc]
          decide
        rw [if_pos hc, ih hnext]
        simp [hbracket]
      · have hnext : false = false ↔ Even (backslashes (u ++ [c])) := by
          rw [backslashes_concat, if_neg hc]
          simp
        rw [if_neg hc, ih hnext, hb]
        simp

theorem evenlyEscaped_iff {t : Text} : EvenlyEscaped t ↔ EvenlyBehind false t := by
  have hstart : false = false ↔ Even (backslashes []) := by simp [backslashes]
  rw [evenlyBehind_iff hstart]
  rfl

/-! ### The text of a link -/

theorem linkText_cons_bracket {c : Char} (hc : IsBracket c) (t : Text) :
    linkText (c :: t) = '\\' :: c :: linkText t := by
  simp only [linkText, List.flatMap_cons, if_pos (show c = '[' ∨ c = ']' from hc)]
  rfl

theorem linkText_cons_of_not {c : Char} (hc : ¬IsBracket c) (t : Text) :
    linkText (c :: t) = c :: linkText t := by
  simp only [linkText, List.flatMap_cons, if_neg (show ¬(c = '[' ∨ c = ']') from hc)]
  rfl

/-- What stands in front of the first closing bracket that is not escaped. -/
def upToClose (b : Bool) (t : Text) : List Token :=
  (tokensBehind b t).takeWhile fun k => k ≠ .plain ']'

theorem upToClose_backslash (t : Text) : upToClose false ('\\' :: t) = upToClose true t := by
  simp [upToClose, tokensBehind]

theorem upToClose_close (t : Text) : upToClose false (']' :: t) = [] := by
  simp [upToClose, tokensBehind]

theorem upToClose_plain {c : Char} (hslash : c ≠ '\\') (hclose : c ≠ ']') (t : Text) :
    upToClose false (c :: t) = .plain c :: upToClose false t := by
  simp [upToClose, tokensBehind, hslash, hclose]

theorem upToClose_escaped {c : Char} (hc : isPunctuation c = true) (t : Text) :
    upToClose true (c :: t) = .escaped c :: upToClose false t := by
  simp [upToClose, tokensBehind, hc]

theorem upToClose_unescaped {c : Char} (hc : isPunctuation c = false) (t : Text) :
    upToClose true (c :: t) = .plain '\\' :: .plain c :: upToClose false t := by
  have hclose : c ≠ ']' := by
    rintro rfl
    cases hc
  simp [upToClose, tokensBehind, hc, hclose]

/-- The title of a link ends where the link closes it, and has no bracket before that which is not
escaped. -/
def ClosesBehind (b : Bool) (title rest : Text) : Prop :=
  (upToClose b (linkText title ++ ']' :: rest)).flatMap Token.text = pending b ++ linkText title ∧
    .plain '[' ∉ upToClose b (linkText title ++ ']' :: rest)

variable {b : Bool} {c : Char} {title rest : Text}

theorem closesBehind_nil : ClosesBehind b [] rest ↔ b = false := by
  rw [ClosesBehind, show linkText [] = [] from rfl, List.nil_append]
  cases b with
  | false => simp [upToClose_close, pending]
  | true =>
      have hescaped : upToClose true (']' :: rest) = .escaped ']' :: upToClose false rest :=
        upToClose_escaped (by decide) rest
      rw [hescaped]
      simp [pending, Token.text]

theorem closesBehind_backslash :
    ClosesBehind b ('\\' :: title) rest ↔ ClosesBehind (!b) title rest := by
  rw [ClosesBehind, ClosesBehind, linkText_cons_of_not (by decide), List.cons_append]
  cases b with
  | false =>
      rw [upToClose_backslash]
      rfl
  | true =>
      rw [upToClose_escaped (by decide)]
      simp [pending, Token.text]

theorem closesBehind_bracket (hc : IsBracket c) :
    ClosesBehind b (c :: title) rest ↔ b = false ∧ ClosesBehind false title rest := by
  have hpunctuation : isPunctuation c = true := by
    rcases hc with rfl | rfl <;> rfl
  rw [ClosesBehind, ClosesBehind, linkText_cons_bracket hc, List.cons_append, List.cons_append]
  cases b with
  | false =>
      rw [upToClose_backslash, upToClose_escaped hpunctuation]
      simp [pending, Token.text]
  | true =>
      rw [upToClose_escaped (by decide)]
      refine iff_of_false ?_ (by simp)
      rintro ⟨htext, hopen⟩
      rcases hc with rfl | rfl
      · rw [upToClose_plain (by decide) (by decide)] at hopen
        simp at hopen
      · rw [upToClose_close] at htext
        simp [pending, Token.text] at htext

theorem closesBehind_other (hslash : c ≠ '\\') (hc : ¬IsBracket c) :
    ClosesBehind b (c :: title) rest ↔ ClosesBehind false title rest := by
  obtain ⟨hopen, hclose⟩ := not_or.mp hc
  rw [ClosesBehind, ClosesBehind, linkText_cons_of_not hc, List.cons_append]
  cases b with
  | false =>
      rw [upToClose_plain hslash hclose]
      simp [pending, Token.text, Ne.symm hopen]
  | true =>
      cases hpunctuation : isPunctuation c with
      | true =>
          rw [upToClose_escaped hpunctuation]
          simp [pending, Token.text]
      | false =>
          rw [upToClose_unescaped hpunctuation]
          simp [pending, Token.text, Ne.symm hopen]

theorem closesBehind_iff : ClosesBehind b title rest ↔ EvenlyBehind b title := by
  induction title generalizing b with
  | nil => exact closesBehind_nil
  | cons c title ih =>
      rw [EvenlyBehind]
      split
      · rename_i hslash
        rw [hslash, closesBehind_backslash, ih]
      · rename_i hslash
        by_cases hc : IsBracket c
        · rw [closesBehind_bracket hc, ih, forall_prop_of_true hc]
        · rw [closesBehind_other hslash hc, ih]
          simp [hc]

/-! ### Links -/

/-- In the link of a page, read with backslash escapes, the first closing bracket that is not escaped
is the one between the title and the address, and the only such opening bracket before it is the one
in front of the title. -/
def LinkReadable (p : Page) : Prop :=
  let link := tokens (Builtin.markdown.render p)
  let label := link.takeWhile fun k => k ≠ .plain ']'
  let behind := link.dropWhile fun k => k ≠ .plain ']'
  label.flatMap Token.text = '[' :: linkText p.title ∧
    behind.flatMap Token.text = ']' :: '(' :: p.url ++ [')'] ∧ .plain '[' ∉ label.tail

theorem render_markdown (p : Page) :
    Builtin.markdown.render p = '[' :: (linkText p.title ++ (']' :: '(' :: p.url ++ [')'])) :=
  List.append_assoc ('[' :: linkText p.title) _ _

theorem linkReadable_iff_closesBehind (p : Page) :
    LinkReadable p ↔ ClosesBehind false p.title ('(' :: p.url ++ [')']) := by
  have hlabel : (tokens (Builtin.markdown.render p)).takeWhile (fun k => k ≠ .plain ']') =
      .plain '[' :: upToClose false (linkText p.title ++ ']' :: ('(' :: p.url ++ [')'])) := by
    rw [render_markdown]
    exact upToClose_plain (by decide) (by decide) _
  have hall := (flatMap_text_tokens (Builtin.markdown.render p)).trans (render_markdown p)
  rw [← List.takeWhile_append_dropWhile (p := fun k => k ≠ .plain ']') (l := tokens _),
    List.flatMap_append] at hall
  rw [LinkReadable, ClosesBehind]
  constructor
  · rintro ⟨hlabelText, -, hopen⟩
    rw [hlabel] at hlabelText hopen
    exact ⟨(List.cons.inj hlabelText).2, hopen⟩
  · rintro ⟨htitle, hopen⟩
    have hlabelText : ((tokens (Builtin.markdown.render p)).takeWhile
        fun k => k ≠ .plain ']').flatMap Token.text = '[' :: linkText p.title := by
      rw [hlabel, List.flatMap_cons, htitle]
      rfl
    rw [hlabelText, ← List.cons_append] at hall
    refine ⟨hlabelText, List.append_cancel_left hall, ?_⟩
    rwa [hlabel]

theorem linkReadable_iff_evenlyEscaped (p : Page) : LinkReadable p ↔ EvenlyEscaped p.title := by
  rw [linkReadable_iff_closesBehind, closesBehind_iff, evenlyEscaped_iff]

theorem evenlyEscaped_of_not_mem {t : Text} (h : '\\' ∉ t) : EvenlyEscaped t := by
  intro u v huv _
  have hzero : backslashes u = 0 := by
    rw [backslashes, List.length_eq_zero_iff, List.rtakeWhile_eq_nil_iff]
    intro hu hlast
    apply h
    rw [huv, List.mem_append, ← of_decide_eq_true hlast]
    exact .inl (List.getLast_mem hu)
  rw [hzero]
  exact Even.zero

/-- A link can be read back just when an even number of backslashes stands in front of every bracket
of the title and at its end; so the links of titles without backslashes can be. -/
theorem link_readable (p : Page) :
    (LinkReadable p ↔ EvenlyEscaped p.title) ∧ ('\\' ∉ p.title → LinkReadable p) := by
  have hiff := linkReadable_iff_evenlyEscaped p
  exact ⟨hiff, fun hnone => hiff.mpr (evenlyEscaped_of_not_mem hnone)⟩

/-- The brackets of a title without backslashes are escaped, whatever the address is. -/
theorem link_readable_bracketed :
    let title := Text.lit "a [b] c]"
    '\\' ∉ title ∧ LinkReadable { title, url := Text.lit "\\](u)" } := by
  intro title
  have hnone : '\\' ∉ title := by decide
  exact ⟨hnone, (link_readable { title, url := Text.lit "\\](u)" }).2 hnone⟩

/-- A backslash at the end of a title escapes the bracket that closes the link, and one in front of
a bracket leaves that unescaped. -/
theorem link_not_closed :
    let ending : Page := { title := ['\\'], url := ['u'] }
    let closing : Page := { title := ['\\', ']'], url := ['u'] }
    (Builtin.markdown.render ending = Text.lit "[\\](u)" ∧ ¬LinkReadable ending) ∧
      (Builtin.markdown.render closing = Text.lit "[\\\\]](u)" ∧ ¬LinkReadable closing) := by
  intro ending closing
  have hodd : ¬Even (backslashes ['\\']) := by decide
  refine ⟨⟨by decide, fun hread => hodd ?_⟩, ⟨by decide, fun hread => hodd ?_⟩⟩
  · rw [linkReadable_iff_evenlyEscaped] at hread
    exact hread ['\\'] [] rfl (by simp)
  · rw [linkReadable_iff_evenlyEscaped] at hread
    exact hread ['\\'] [']'] rfl (by simp [IsBracket])

end CopyFormat.Markup
