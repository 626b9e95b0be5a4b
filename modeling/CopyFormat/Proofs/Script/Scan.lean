import CopyFormat.Proofs.Script.TopLevel
import CopyFormat.Proofs.Text.Basic
import Mathlib.Order.Nat

/-!
What the scanners find behind, between and around balanced texts, and what it means that a place is
the first that is found.
-/

namespace CopyFormat.Script

variable {p : Char → Prop} {n : Nat} {s t u : Text}

/-! ### The depth of brackets -/

theorem depthBehind_open (depth : Nat) : depthBehind depth ⟨'(', true⟩ = depth + 1 := rfl

theorem depthBehind_close (depth : Nat) : depthBehind (depth + 1) ⟨')', true⟩ = depth := rfl

theorem foldl_depthBehind_hidden (depth : Nat) (t : Text) :
    (hidden t).foldl depthBehind depth = depth := by
  induction t with
  | nil => rfl
  | cons c t ih => exact ih

/-! ### The top level -/

theorem topOf_hidden_append (depth : Nat) (t : Text) (ms : List Mark) :
    topOf depth (hidden t ++ ms) = hidden t ++ topOf depth ms := by
  induction t with
  | nil => rfl
  | cons c t ih =>
      change topOf depth (⟨c, false⟩ :: (hidden t ++ ms)) =
        ⟨c, false⟩ :: (hidden t ++ topOf depth ms)
      rw [topOf, ← ih]
      rfl

namespace Balances

theorem marks_append (h : Balances p n u) (t : Text) : marks (u ++ t) = marks u ++ marks t := by
  induction h with
  | nil => rfl
  | plain hc _ _ ih =>
      have hquote := (isPlain_iff.mp hc).1
      rw [List.cons_append, marks_cons hquote, marks_cons hquote, ih, List.cons_append]
  | quoted hq v _ ih =>
      rw [List.cons_append, List.append_assoc, List.cons_append, marks_quoted hq, marks_quoted hq,
        ih, List.append_assoc]
  | opening _ ih => rw [List.cons_append, marks_cons rfl, marks_cons rfl, ih, List.cons_append]
  | closing _ ih => rw [List.cons_append, marks_cons rfl, marks_cons rfl, ih, List.cons_append]

theorem foldl_depthBehind (h : Balances p n u) (depth : Nat) :
    (marks u).foldl depthBehind (n + depth) = depth := by
  induction h with
  | nil => exact Nat.zero_add depth
  | plain hc _ _ ih =>
      rw [marks_cons (isPlain_iff.mp hc).1, List.foldl_cons, depthBehind_plain hc, ih]
  | quoted hq v _ ih => rw [marks_quoted hq, List.foldl_append, foldl_depthBehind_hidden, ih]
  | opening _ ih =>
      rw [Nat.add_right_comm] at ih
      rw [marks_cons rfl, List.foldl_cons, depthBehind_open, ih]
  | closing _ ih =>
      rw [Nat.add_right_comm, marks_cons rfl, List.foldl_cons, depthBehind_close, ih]

theorem endsAtTop (h : Balances p 0 u) : EndsAtTop u := by
  refine ⟨quoteBehind_of_marks_append h.marks_append, ?_⟩
  have hdepth := h.foldl_depthBehind 0
  rwa [Nat.zero_add] at hdepth

theorem of_bare (h : Balances p n u) {m : Mark} (hm : m ∈ topOf n (marks u))
    (hbare : m.bare = true) : p m.char := by
  have hhidden : ∀ {v : Text} {ms : List Mark}, m ∈ hidden v ++ ms → m ∈ ms := by
    intro v ms hm
    rcases List.mem_append.mp hm with hm | hm
    · obtain ⟨c, -, rfl⟩ := List.mem_map.mp hm
      cases hbare
    · exact hm
  induction h with
  | nil => cases hm
  | @plain n c r hc htop _ ih =>
      rw [marks_cons (isPlain_iff.mp hc).1, topOf, depthBehind_plain hc] at hm
      rcases List.mem_cons.mp hm with rfl | hm
      · refine htop ?_
        simp only [Bool.true_and, Bool.and_eq_true, beq_iff_eq] at hbare
        exact hbare.1
      · exact ih hm
  | quoted hq v _ ih =>
      rw [marks_quoted hq, topOf_hidden_append] at hm
      exact ih (hhidden hm)
  | opening _ ih =>
      rw [marks_cons rfl, topOf, depthBehind_open] at hm
      rcases List.mem_cons.mp hm with rfl | hm
      · simp [isBracket] at hbare
      · exact ih hm
  | closing _ ih =>
      rw [marks_cons rfl, topOf, depthBehind_close] at hm
      rcases List.mem_cons.mp hm with rfl | hm
      · simp at hbare
      · exact ih hm

theorem is_eq_false (h : Balances p 0 u) {c : Char} (hc : ¬p c) {m : Mark}
    (hm : m ∈ topMarks u) : m.is c = false := by
  rw [Bool.eq_false_iff]
  intro his
  obtain ⟨hbare, rfl⟩ := Mark.is_iff.mp his
  exact hc (h.of_bare hm hbare)

theorem findTop_eq_none (h : Balances p 0 u) {c : Char} (hc : ¬p c) : findTop c u = none := by
  rw [findTop_eq_none_iff]
  intro m hm
  exact h.is_eq_false hc hm

end Balances

/-! ### Parts between delimiters -/

theorem splitTop_join {c : Char} (hplain : isPlain c = true) (hc : ¬p c) {ts : List Text}
    (hne : ts ≠ []) (h : ∀ t ∈ ts, Balances p 0 t) :
    splitTop c (Text.join [c] ts) = ts :=
  splitTop_join_of_endsAtTop hplain hne fun t ht =>
    ⟨(h t ht).endsAtTop, (h t ht).findTop_eq_none hc⟩

/-! ### First places -/

/-- How many bare characters of a kind stand among marks. -/
def countOf (c : Char) (ms : List Mark) : Nat := ms.countP fun m => m.is c

theorem countOf_cons (c : Char) (m : Mark) (ms : List Mark) :
    countOf c (m :: ms) = countOf c ms + if m.is c then 1 else 0 := List.countP_cons

section

variable {found : Option Nat} {p q : Nat → Prop} {k n : Nat}

theorem some_zero_eq_some_iff (hzero : p 0) : some 0 = some k ↔ IsLeast {j | p j} k := by
  constructor
  · rintro ⟨⟩
    exact ⟨hzero, fun j _ => Nat.zero_le j⟩
  · rintro ⟨-, hleast⟩
    rw [Nat.le_zero.mp (hleast hzero)]

theorem map_add_eq_some_iff (hshift : ∀ c, p c ↔ ∃ j, c = j + n ∧ q j)
    (hfound : ∀ j, found = some j ↔ IsLeast {j | q j} j) :
    found.map (· + n) = some k ↔ IsLeast {c | p c} k := by
  constructor
  · intro h
    obtain ⟨j, hj, rfl⟩ := Option.map_eq_some_iff.mp h
    obtain ⟨hq, hleast⟩ := (hfound j).mp hj
    refine ⟨(hshift _).mpr ⟨j, rfl, hq⟩, ?_⟩
    rintro c hc
    obtain ⟨i, rfl, hi⟩ := (hshift c).mp hc
    exact Nat.add_le_add_right (hleast hi) n
  · rintro ⟨hk, hleast⟩
    obtain ⟨j, rfl, hj⟩ := (hshift k).mp hk
    refine Option.map_eq_some_iff.mpr ⟨j, (hfound j).mpr ⟨hj, fun i hi => ?_⟩, rfl⟩
    exact Nat.le_of_add_le_add_right (hleast ((hshift (i + n)).mpr ⟨i, rfl, hi⟩))

theorem map_succ_eq_some_iff (hzero : ¬p 0) (hsucc : ∀ j, p (j + 1) ↔ q j)
    (hfound : ∀ j, found = some j ↔ IsLeast {j | q j} j) :
    found.map (· + 1) = some k ↔ IsLeast {c | p c} k := by
  apply map_add_eq_some_iff _ hfound
  intro c
  cases c with
  | zero => simp [hzero]
  | succ c => simp [hsucc]

theorem eq_none_iff_of_isLeast (hfound : ∀ j, found = some j ↔ IsLeast {j | p j} j) :
    found = none ↔ ∀ j, ¬p j := by
  constructor
  · classical
    rintro rfl j hj
    cases (hfound _).mpr (Nat.isLeast_find ⟨j, hj⟩)
  · intro hnone
    rw [Option.eq_none_iff_forall_ne_some]
    intro j hj
    exact hnone j ((hfound j).mp hj).1

end

/-! ### The colon of a choice -/

theorem colonAmong_question (pending : Nat) (ms : List Mark) :
    colonAmong pending (⟨'?', true⟩ :: ms) = (colonAmong (pending + 1) ms).map (· + 1) := by
  cases pending <;> rfl

theorem colonAmong_answer (pending : Nat) (ms : List Mark) :
    colonAmong (pending + 1) (⟨':', true⟩ :: ms) = (colonAmong pending ms).map (· + 1) := rfl

theorem colonAmong_found (ms : List Mark) : colonAmong 0 (⟨':', true⟩ :: ms) = some 0 := rfl

theorem colonAmong_other {m : Mark} (hquestion : m.is '?' = false) (hcolon : m.is ':' = false)
    (pending : Nat) (ms : List Mark) :
    colonAmong pending (m :: ms) = (colonAmong pending ms).map (· + 1) := by
  rw [colonAmong.eq_def]
  simp only [hquestion, hcolon, Bool.false_eq_true, if_false]

theorem colonAmong_append_of_none {l : List Mark}
    (hl : ∀ m ∈ l, m.is '?' = false ∧ m.is ':' = false) (pending : Nat) (ms : List Mark) :
    colonAmong pending (l ++ ms) = (colonAmong pending ms).map (· + l.length) := by
  induction l with
  | nil => simp
  | cons m l ih =>
      obtain ⟨⟨hquestion, hcolon⟩, hl⟩ := List.forall_mem_cons.mp hl
      rw [List.cons_append, colonAmong_other hquestion hcolon, ih hl, Option.map_map]
      rfl

/-! ### Parentheses -/

theorem closeAmong_open (depth : Nat) (ms : List Mark) :
    closeAmong depth (⟨'(', true⟩ :: ms) = (closeAmong (depth + 1) ms).map (· + 1) := rfl

theorem closeAmong_close (depth : Nat) (ms : List Mark) :
    closeAmong depth (⟨')', true⟩ :: ms) =
      if depth ≤ 1 then some 0 else (closeAmong (depth - 1) ms).map (· + 1) := rfl

theorem closeAmong_other {m : Mark} (hopen : m.is '(' = false) (hclose : m.is ')' = false)
    (depth : Nat) (ms : List Mark) :
    closeAmong depth (m :: ms) = (closeAmong depth ms).map (· + 1) := by
  rw [closeAmong]
  simp only [hopen, hclose, Bool.false_eq_true, if_false]

theorem closeAmong_plain {c : Char} (hc : isPlain c = true) (depth : Nat) (ms : List Mark) :
    closeAmong depth (⟨c, true⟩ :: ms) = (closeAmong depth ms).map (· + 1) :=
  closeAmong_other (plain_is_bracket hc (by decide)) (plain_is_bracket hc (by decide)) depth ms

theorem closeAmong_append_of_none {l : List Mark}
    (hl : ∀ m ∈ l, m.is '(' = false ∧ m.is ')' = false) (depth : Nat) (ms : List Mark) :
    closeAmong depth (l ++ ms) = (closeAmong depth ms).map (· + l.length) := by
  induction l with
  | nil => simp
  | cons m l ih =>
      obtain ⟨⟨hopen, hclose⟩, hl⟩ := List.forall_mem_cons.mp hl
      rw [List.cons_append, closeAmong_other hopen hclose, ih hl, Option.map_map]
      rfl

theorem openAmong_open (opened : List Nat) (place : Nat) (ms : List Mark) :
    openAmong opened place (⟨'(', true⟩ :: ms) = openAmong (place :: opened) (place + 1) ms := rfl

theorem openAmong_close (opened : List Nat) (place : Nat) (ms : List Mark) :
    openAmong opened place (⟨')', true⟩ :: ms) =
      if ms.isEmpty then opened.head? else openAmong opened.tail (place + 1) ms := rfl

theorem openAmong_other {m : Mark} (hopen : m.is '(' = false) (hclose : m.is ')' = false)
    (opened : List Nat) (place : Nat) (ms : List Mark) :
    openAmong opened place (m :: ms) = openAmong opened (place + 1) ms := by
  rw [openAmong]
  simp only [hopen, hclose, Bool.false_eq_true, if_false]

theorem openAmong_append_of_none {l : List Mark}
    (hl : ∀ m ∈ l, m.is '(' = false ∧ m.is ')' = false) (opened : List Nat) (place : Nat)
    (ms : List Mark) :
    openAmong opened place (l ++ ms) = openAmong opened (place + l.length) ms := by
  induction l generalizing place with
  | nil => rfl
  | cons m l ih =>
      obtain ⟨⟨hopen, hclose⟩, hl⟩ := List.forall_mem_cons.mp hl
      rw [List.cons_append, openAmong_other hopen hclose, ih hl, List.length_cons,
        Nat.add_right_comm, Nat.add_assoc]

theorem not_is_of_mem_hidden {t : Text} {m : Mark} (hm : m ∈ hidden t) (c : Char) :
    m.is c = false := by
  obtain ⟨d, -, rfl⟩ := List.mem_map.mp hm
  exact Mark.is_hidden d c

theorem length_hidden (t : Text) : (hidden t).length = t.length := List.length_map _

theorem closeAmong_hidden_append (depth : Nat) (t : Text) (ms : List Mark) :
    closeAmong depth (hidden t ++ ms) = (closeAmong depth ms).map (· + t.length) := by
  rw [closeAmong_append_of_none fun m hm => ⟨not_is_of_mem_hidden hm _, not_is_of_mem_hidden hm _⟩,
    length_hidden]

theorem openAmong_hidden_append (opened : List Nat) (place : Nat) (t : Text) (ms : List Mark) :
    openAmong opened place (hidden t ++ ms) = openAmong opened (place + t.length) ms := by
  rw [openAmong_append_of_none fun m hm => ⟨not_is_of_mem_hidden hm _, not_is_of_mem_hidden hm _⟩,
    length_hidden]

namespace Balances

theorem closeAmong_append (h : Balances p n u) {depth : Nat} (hdepth : 0 < depth)
    (ms : List Mark) :
    closeAmong (n + depth) (marks u ++ ms) = (closeAmong depth ms).map (· + u.length) := by
  have hstep : ∀ (o : Option Nat) (k : Nat), (o.map (· + k)).map (· + 1) = o.map (· + (k + 1)) :=
    fun o k => by rw [Option.map_map]; rfl
  induction h with
  | nil => simp [marks, marksIn]
  | plain hc _ _ ih =>
      rw [marks_cons (isPlain_iff.mp hc).1, List.cons_append, closeAmong_plain hc, ih, hstep]
      rfl
  | @quoted n q r hq v _ ih =>
      rw [marks_quoted hq, List.append_assoc, closeAmong_hidden_append, ih, Option.map_map,
        ← quoted_append, List.length_append]
      congr 1
      funext k
      exact (Nat.add_assoc ..).trans (congrArg (k + ·) (Nat.add_comm ..))
  | opening _ ih =>
      rw [Nat.add_right_comm] at ih
      rw [marks_cons rfl, List.cons_append, closeAmong_open, ih, hstep]
      rfl
  | @closing n r _ ih =>
      rw [marks_cons rfl, List.cons_append, closeAmong_close, if_neg (by omega),
        show n + 1 + depth - 1 = n + depth by omega, ih, hstep]
      rfl

theorem drop_close (h : Balances p (n + 1) u) {k : Nat}
    (hk : closeAmong (n + 1) (marks u) = some k) : Balances p 0 (u.drop (k + 1)) := by
  generalize hdepth : n + 1 = depth at h hk
  induction h generalizing n k with
  | nil => omega
  | plain hc _ _ ih =>
      rw [marks_cons (isPlain_iff.mp hc).1, closeAmong_plain hc] at hk
      obtain ⟨k', hk', rfl⟩ := Option.map_eq_some_iff.mp hk
      exact ih hdepth hk'
  | @quoted _ q r hq v _ ih =>
      rw [marks_quoted hq, closeAmong_hidden_append] at hk
      obtain ⟨k', hk', rfl⟩ := Option.map_eq_some_iff.mp hk
      rw [← quoted_append, Nat.add_right_comm, Nat.add_comm _ (Script.quoted q v).length,
        List.drop_length_add_append]
      exact ih hdepth hk'
  | opening _ ih =>
      rw [marks_cons rfl, closeAmong_open] at hk
      obtain ⟨k', hk', rfl⟩ := Option.map_eq_some_iff.mp hk
      exact ih (congrArg Nat.succ hdepth) hk'
  | @closing m r hr ih =>
      rw [marks_cons rfl, closeAmong_close] at hk
      split at hk
      · cases hk
        obtain rfl : m = 0 := by omega
        exact hr
      · obtain ⟨k', hk', rfl⟩ := Option.map_eq_some_iff.mp hk
        obtain ⟨m', rfl⟩ : ∃ m', m = m' + 1 := ⟨m - 1, by omega⟩
        exact ih rfl hk'

/-- The parentheses which a balanced text closes are the ones last opened before it. -/
theorem openAmong_append (h : Balances p n u) {stack : List Nat} (hstack : stack.length = n)
    (opened : List Nat) (place : Nat) {ms : List Mark} (hms : ms ≠ []) :
    openAmong (stack ++ opened) place (marks u ++ ms) =
      openAmong opened (place + u.length) ms := by
  induction h generalizing stack place with
  | nil => rw [List.length_eq_zero_iff.mp hstack]; rfl
  | @plain _ c r hc _ _ ih =>
      rw [marks_cons (isPlain_iff.mp hc).1, List.cons_append,
        openAmong_other (plain_is_bracket hc (by decide)) (plain_is_bracket hc (by decide)),
        ih hstack, List.length_cons, Nat.add_right_comm, Nat.add_assoc]
  | @quoted _ q r hq v _ ih =>
      rw [marks_quoted hq, List.append_assoc, openAmong_hidden_append, ih hstack, Nat.add_assoc,
        ← quoted_append, List.length_append]
  | @opening _ r _ ih =>
      rw [marks_cons rfl, List.cons_append, openAmong_open, ← List.cons_append,
        ih (by rw [List.length_cons, hstack]), List.length_cons, Nat.add_right_comm, Nat.add_assoc]
  | @closing _ r _ ih =>
      cases stack with
      | nil => cases hstack
      | cons k stack =>
          have hrest : (marks r ++ ms).isEmpty = false := by simp [hms]
          rw [marks_cons rfl, List.cons_append, List.cons_append, openAmong_close, hrest,
            if_neg Bool.false_ne_true, List.tail_cons, ih (Nat.succ.inj hstack), List.length_cons,
            Nat.add_right_comm, Nat.add_assoc]

end Balances

theorem trailingOpen_group {p' : Char → Prop} (hhead : Balances p 0 s) (hinner : Balances p' 0 t) :
    trailingOpen (s ++ '(' :: (t ++ [')'])) = some s.length := by
  have hclose : marks [')'] ≠ [] := by decide
  have hinside := hinner.openAmong_append (show ([] : List Nat).length = 0 from rfl) [s.length]
    (s.length + 1) hclose
  rw [trailingOpen, hhead.marks_append, ← List.nil_append ([] : List Nat),
    hhead.openAmong_append rfl [] 0 (by rw [marks_cons rfl]; exact List.cons_ne_nil _ _),
    marks_cons rfl, hinner.marks_append, Nat.zero_add]
  rw [List.nil_append] at hinside
  rw [openAmong_open, hinside]
  rfl

end CopyFormat.Script
