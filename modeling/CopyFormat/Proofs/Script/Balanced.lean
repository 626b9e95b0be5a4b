import CopyFormat.Proofs.Text.Character
import CopyFormat.Proofs.Text.Trim
import CopyFormat.Script.Scan

/-!
Texts whose quotes and parentheses pair up. Every scanner passes over such a text as a whole, so
that what it finds in a larger script is known from the delimiters between the parts.
-/

namespace CopyFormat.Script

/-! ### Quoted texts -/

/-- A text inside the quotes `q`: backslashes and that quote have a backslash before them. -/
def escape (q : Char) : Text → Text
  | [] => []
  | c :: r => if c = '\\' ∨ c = q then '\\' :: c :: escape q r else c :: escape q r

/-- A text between two quotes `q`. -/
def quoted (q : Char) (t : Text) : Text := q :: (escape q t ++ [q])

theorem isQuote_iff {c : Char} : isQuote c = true ↔ c = '\'' ∨ c = '"' := by
  simp [isQuote]

theorem ne_backslash_of_isQuote {q : Char} (hq : isQuote q = true) : q ≠ '\\' := by
  rintro rfl
  exact absurd hq (by decide)

theorem escaped_eq_self {c q : Char} (hq : isQuote q = true) (h : c = '\\' ∨ c = q) :
    escaped c = c := by
  rcases h with rfl | rfl
  · rfl
  · rcases isQuote_iff.mp hq with rfl | rfl <;> rfl

theorem unquoteBehind_escape {q : Char} (hq : isQuote q = true) (t : Text) :
    unquoteBehind q (escape q t ++ [q]) = some t := by
  induction t with
  | nil => simp [escape, unquoteBehind]
  | cons c t ih =>
      rw [escape]
      split
      · rename_i hc
        rw [List.cons_append, List.cons_append, unquoteBehind, ih, Option.map_some,
          escaped_eq_self hq hc]
      · rename_i hc
        rw [not_or] at hc
        have hnil : escape q t ++ [q] ≠ [] := by simp
        rw [List.cons_append, unquoteBehind]
        · rw [if_neg hc.2, ih, Option.map_some]
        · exact hnil
        · rintro d r rfl
          exact absurd rfl hc.1

theorem unquote?_quoted {q : Char} (hq : isQuote q = true) (t : Text) :
    unquote? (quoted q t) = some t := by
  rw [quoted, unquote?, if_pos hq, unquoteBehind_escape hq]

/-! ### Marks -/

@[simp] theorem Mark.is_bare (c d : Char) : (⟨c, true⟩ : Mark).is d = (c == d) := rfl

@[simp] theorem Mark.is_hidden (c d : Char) : (⟨c, false⟩ : Mark).is d = false := rfl

def hidden (t : Text) : List Mark := t.map fun c => ⟨c, false⟩

theorem marksIn_none_cons (c : Char) (r : Text) :
    marksIn none (c :: r) =
      if isQuote c then ⟨c, false⟩ :: marksIn (some c) r else ⟨c, true⟩ :: marksIn none r := rfl

theorem marksIn_backslash (q d : Char) (r : Text) :
    marksIn (some q) ('\\' :: d :: r) = ⟨'\\', false⟩ :: ⟨d, false⟩ :: marksIn (some q) r := rfl

theorem marks_cons {c : Char} (h : isQuote c = false) (r : Text) :
    marks (c :: r) = ⟨c, true⟩ :: marks r := by
  rw [marks, marksIn_none_cons, h]
  rfl

theorem marksIn_quote {q c : Char} (h : c ≠ '\\') (r : Text) :
    marksIn (some q) (c :: r) = ⟨c, false⟩ :: marksIn (if c = q then none else some q) r := by
  rw [marksIn]
  rintro d r' rfl
  exact absurd rfl h

theorem marksIn_escape {q : Char} (hq : isQuote q = true) (t r : Text) :
    marksIn (some q) (escape q t ++ q :: r) = hidden (escape q t ++ [q]) ++ marks r := by
  induction t with
  | nil =>
      change marksIn (some q) (q :: r) = ⟨q, false⟩ :: marks r
      rw [marksIn_quote (ne_backslash_of_isQuote hq), if_pos rfl]
      rfl
  | cons c t ih =>
      rw [escape]
      split
      · rw [List.cons_append, List.cons_append, marksIn_backslash, ih]
        rfl
      · rename_i hc
        rw [not_or] at hc
        rw [List.cons_append, marksIn_quote hc.1, if_neg hc.2, ih]
        rfl

theorem marks_quoted {q : Char} (hq : isQuote q = true) (t r : Text) :
    marks (q :: (escape q t ++ q :: r)) = hidden (quoted q t) ++ marks r := by
  rw [marks, marksIn_none_cons, if_pos hq, marksIn_escape hq]
  rfl

theorem quoted_append (q : Char) (t r : Text) :
    quoted q t ++ r = q :: (escape q t ++ q :: r) := by
  simp [quoted]

theorem quoted_eq_append (q : Char) (t : Text) : quoted q t = q :: escape q t ++ [q] := rfl

theorem marksIn_map_char (quote : Option Char) (s : Text) :
    (marksIn quote s).map Mark.char = s := by
  fun_induction marksIn quote s <;> simp_all

theorem marks_map_char (s : Text) : (marks s).map Mark.char = s := marksIn_map_char none s

theorem topOf_map_char (depth : Nat) (ms : List Mark) :
    (topOf depth ms).map Mark.char = ms.map Mark.char := by
  induction ms generalizing depth with
  | nil => rfl
  | cons m ms ih => rw [topOf, List.map_cons, List.map_cons, ih]

theorem topMarks_map_char (s : Text) : (topMarks s).map Mark.char = s := by
  rw [topMarks, topOf_map_char, marks_map_char]

theorem topMarks_length (s : Text) : (topMarks s).length = s.length := by
  rw [← List.length_map (f := Mark.char), topMarks_map_char]

/-! ### Balanced texts -/

/-- Whether a character is neither a quote nor a bracket. -/
def isPlain (c : Char) : Bool := !isQuote c && !isBracket c

theorem isPlain_iff {c : Char} : isPlain c = true ↔ isQuote c = false ∧ isBracket c = false := by
  simp [isPlain]

theorem isPlain_iff_not_mem {c : Char} :
    isPlain c = true ↔ c ∉ ['\'', '"', '(', '[', ')', ']'] := by
  simp [isPlain, isQuote, isBracket, and_assoc]

theorem isPlain_of_class {k : Char → Bool}
    (hk : ['\'', '"', '(', '[', ')', ']'].any k = false) {c : Char} (hc : k c = true) :
    isPlain c = true :=
  isPlain_iff_not_mem.mpr (not_mem_of_class hk hc)

theorem isPlain_of_isBlank {c : Char} (hc : isBlank c = true) : isPlain c = true :=
  isPlain_of_class (by decide) hc

/-- The text pairs its quotes, closes `n` more parentheses than it opens, none of them before it
is open, and has only characters that satisfy `p` outside quotes and parentheses. -/
inductive Balances (p : Char → Prop) : Nat → Text → Prop
  | nil : Balances p 0 []
  | plain {n : Nat} {c : Char} {r : Text} (hc : isPlain c = true) (htop : n = 0 → p c)
      (hr : Balances p n r) : Balances p n (c :: r)
  | quoted {n : Nat} {q : Char} {r : Text} (hq : isQuote q = true) (t : Text)
      (hr : Balances p n r) : Balances p n (q :: (escape q t ++ q :: r))
  | opening {n : Nat} {r : Text} (hr : Balances p (n + 1) r) : Balances p n ('(' :: r)
  | closing {n : Nat} {r : Text} (hr : Balances p n r) : Balances p (n + 1) (')' :: r)

namespace Balances

variable {p : Char → Prop} {m n : Nat} {s t u : Text}

theorem mono {p' : Char → Prop} (himp : ∀ c, p c → p' c) (h : Balances p n t) :
    Balances p' n t := by
  induction h with
  | nil => exact .nil
  | plain hc htop _ ih => exact .plain hc (fun hn => himp _ (htop hn)) ih
  | quoted hq t _ ih => exact .quoted hq t ih
  | opening _ ih => exact .opening ih
  | closing _ ih => exact .closing ih

theorem append (hs : Balances p m s) (ht : Balances p n t) : Balances p (m + n) (s ++ t) := by
  induction hs with
  | nil => rwa [Nat.zero_add]
  | plain hc htop _ ih => exact .plain hc (fun hn => htop (by omega)) ih
  | quoted hq u _ ih =>
      rw [List.cons_append, List.append_assoc, List.cons_append]
      exact .quoted hq u ih
  | opening _ ih =>
      rw [Nat.add_right_comm] at ih
      exact .opening ih
  | closing _ ih =>
      rw [Nat.add_right_comm]
      exact .closing ih

theorem of_forall (h : ∀ c ∈ t, isPlain c = true ∧ p c) : Balances p 0 t := by
  induction t with
  | nil => exact .nil
  | cons c t ih =>
      obtain ⟨hc, hp⟩ := h c List.mem_cons_self
      exact .plain hc (fun _ => hp) (ih fun d hd => h d (List.mem_cons_of_mem c hd))

theorem parenthesised {p' : Char → Prop} (h : Balances p' 0 t) : Balances p 1 (t ++ [')']) := by
  have hraise : ∀ {n : Nat} {u : Text}, Balances p' n u → Balances p (n + 1) (u ++ [')']) := by
    intro n u hu
    induction hu with
    | nil => exact .closing .nil
    | plain hc _ _ ih => exact .plain hc (fun hn => absurd hn (by omega)) ih
    | quoted hq v _ ih =>
        rw [List.cons_append, List.append_assoc, List.cons_append]
        exact .quoted hq v ih
    | opening _ ih => exact .opening ih
    | closing _ ih => exact .closing ih
  exact hraise h

theorem group {p' : Char → Prop} (h : Balances p' 0 t) : Balances p 0 ('(' :: (t ++ [')'])) :=
  .opening h.parenthesised

theorem of_quoted {q : Char} (hq : isQuote q = true) (t : Text) :
    Balances p 0 (Script.quoted q t) :=
  .quoted hq t .nil

theorem of_plain_cons {c : Char} (hc : isPlain c = true) (h : Balances p n (c :: t)) :
    Balances p n t := by
  cases h with
  | plain _ _ hr => exact hr
  | quoted hq _ _ =>
      rw [(isPlain_iff.mp hc).1] at hq
      cases hq
  | opening _ => cases hc
  | closing _ => cases hc

theorem of_blank_append (hu : u.isBlankText = true) (h : Balances p n (u ++ t)) :
    Balances p n t := by
  rw [Text.isBlankText_iff] at hu
  induction u with
  | nil => exact h
  | cons c u ih =>
      have hplain := isPlain_of_isBlank (hu c List.mem_cons_self)
      exact ih (fun d hd => hu d (List.mem_cons_of_mem c hd)) (h.of_plain_cons hplain)

theorem of_concat {c : Char} (hc : isPlain c = true) (h : Balances p n (t ++ [c])) :
    Balances p n t := by
  generalize hs : t ++ [c] = s at h
  induction h generalizing t with
  | nil => simp at hs
  | plain hd htop hr ih =>
      rcases List.append_eq_cons_iff.mp hs with ⟨rfl, hnil⟩ | ⟨t', rfl, hr'⟩
      · cases hnil
        exact hr
      · exact .plain hd htop (ih hr'.symm)
  | @quoted n q r hq v hr ih =>
      rcases List.eq_nil_or_concat r with rfl | ⟨r, d, rfl⟩
      · have hlast := congrArg List.getLast? hs
        rw [← List.cons_append, List.getLast?_concat, List.getLast?_concat] at hlast
        cases hlast
        rw [(isPlain_iff.mp hc).1] at hq
        cases hq
      · have hs' : t ++ [c] = (q :: (escape q v ++ q :: r)) ++ [d] := by rw [hs]; simp
        obtain ⟨rfl, hd⟩ := List.append_inj' hs' rfl
        cases hd
        exact .quoted hq v (ih (List.concat_eq_append ..).symm)
  | opening hr ih =>
      rcases List.append_eq_cons_iff.mp hs with ⟨rfl, hnil⟩ | ⟨t', rfl, hr'⟩
      · cases hnil
        cases hc
      · exact .opening (ih hr'.symm)
  | closing hr ih =>
      rcases List.append_eq_cons_iff.mp hs with ⟨rfl, hnil⟩ | ⟨t', rfl, hr'⟩
      · cases hnil
        cases hc
      · exact .closing (ih hr'.symm)

theorem of_append_blank (hu : u.isBlankText = true) (h : Balances p n (t ++ u)) :
    Balances p n t := by
  rw [Text.isBlankText_iff] at hu
  induction u using List.reverseRecOn with
  | nil => rwa [List.append_nil] at h
  | append_singleton u c ih =>
      rw [← List.append_assoc] at h
      exact ih (fun d hd => hu d (List.mem_append_left _ hd))
        (h.of_concat (isPlain_of_isBlank (hu c (by simp))))

theorem trimStart (h : Balances p n t) : Balances p n t.trimStart := by
  obtain ⟨u, hu, ht⟩ := t.exists_trimStart
  rw [ht] at h
  exact h.of_blank_append hu

theorem trimEnd (h : Balances p n t) : Balances p n t.trimEnd := by
  obtain ⟨v, hv, ht⟩ := t.exists_trimEnd
  rw [ht] at h
  exact h.of_append_blank hv

theorem trim (h : Balances p n t) : Balances p n t.trim := h.trimStart.trimEnd

theorem head?_ne (h : Balances p 0 t) {c : Char} (hplain : isPlain c = true) (hc : ¬p c) :
    t.head? ≠ some c := by
  intro hhead
  obtain ⟨r, rfl⟩ := List.head?_eq_some_iff.mp hhead
  cases h with
  | plain _ htop _ => exact hc (htop rfl)
  | quoted hq _ _ =>
      rw [(isPlain_iff.mp hplain).1] at hq
      cases hq
  | opening _ => cases hplain

theorem close_mem (h : Balances p (n + 1) t) : ')' ∈ t := by
  generalize hk : n + 1 = k at h
  induction h generalizing n with
  | nil => omega
  | plain _ _ _ ih => exact List.mem_cons_of_mem _ (ih hk)
  | quoted _ _ _ ih =>
      exact List.mem_cons_of_mem _ (List.mem_append_right _ (List.mem_cons_of_mem _ (ih hk)))
  | opening _ ih => exact List.mem_cons_of_mem _ (ih (congrArg Nat.succ hk))
  | closing _ _ => exact List.mem_cons_self

theorem close_or_quote_mem (h : Balances p n (s ++ '(' :: t)) :
    ')' ∈ t ∨ ∃ q ∈ t, isQuote q = true := by
  generalize hu : s ++ '(' :: t = u at h
  induction h generalizing s with
  | nil => simp at hu
  | plain hc _ _ ih =>
      rcases List.append_eq_cons_iff.mp hu with ⟨rfl, hnil⟩ | ⟨s', rfl, hr⟩
      · cases hnil
        cases hc
      · exact ih hr.symm
  | @quoted _ q r hq v _ ih =>
      rw [← quoted_append] at hu
      rcases List.append_eq_append_iff.mp hu with ⟨v', hv, ht⟩ | ⟨s', rfl, hr⟩
      · rcases List.cons_eq_append_iff.mp ht with ⟨rfl, hr⟩ | ⟨v', rfl, rfl⟩
        · exact ih (List.nil_append _ |>.trans hr.symm)
        · refine .inr ⟨q, ?_, hq⟩
          have hlast := congrArg List.getLast? hv
          rcases List.eq_nil_or_concat v' with rfl | ⟨w, d, rfl⟩
          · rw [quoted_eq_append, List.getLast?_concat, List.getLast?_concat] at hlast
            cases hlast
            cases hq
          · rw [quoted_eq_append, List.concat_eq_append, ← List.cons_append, ← List.append_assoc,
              List.getLast?_concat, List.getLast?_concat] at hlast
            cases hlast
            simp
      · exact ih hr.symm
  | opening hr ih =>
      rcases List.append_eq_cons_iff.mp hu with ⟨rfl, hnil⟩ | ⟨s', rfl, hr'⟩
      · cases hnil
        exact .inl hr.close_mem
      · exact ih hr'.symm
  | closing _ ih =>
      rcases List.append_eq_cons_iff.mp hu with ⟨rfl, hnil⟩ | ⟨s', rfl, hr⟩
      · cases hnil
      · exact ih hr.symm

end Balances

end CopyFormat.Script
