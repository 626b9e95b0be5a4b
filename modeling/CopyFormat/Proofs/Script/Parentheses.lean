import CopyFormat.Proofs.Script.Bytes

/-!
The two matchers of parentheses. One looks ahead from a parenthesis for the one that closes it, and
counts those that are open; the other reads a script from its start, with the places of the open ones on
a stack, for the one that the last character closes. Each undoes the other, and the first finds the
nearest place at which as many have been closed as opened.
-/

namespace CopyFormat.Script

variable {depth k o place : Nat} {ms : List Mark} {s : Text}

/-- Outside quotes, as many parentheses are closed in the text as are opened. -/
def EvenlyClosed (t : Text) : Prop := countOf ')' (marks t) = countOf '(' (marks t)

instance (t : Text) : Decidable (EvenlyClosed t) := inferInstanceAs (Decidable (_ = _))

/-- Behind the mark at a place, `depth` more parentheses have been closed than opened. -/
def Closes (depth : Nat) (ms : List Mark) (k : Nat) : Prop :=
  k < ms.length ∧ countOf ')' (ms.take (k + 1)) = depth + countOf '(' (ms.take (k + 1))

theorem closes_zero_iff {m : Mark} :
    Closes depth (m :: ms) 0 ↔
      (if m.is ')' then 1 else 0) = depth + if m.is '(' then 1 else 0 := by
  simp [Closes, countOf, List.countP_cons]

theorem closes_succ_iff {depth' : Nat} {m : Mark}
    (h : depth' + (if m.is ')' then 1 else 0) = depth + if m.is '(' then 1 else 0) (j : Nat) :
    Closes depth (m :: ms) (j + 1) ↔ Closes depth' ms j := by
  rw [Closes, Closes, List.take_succ_cons, countOf_cons, countOf_cons, List.length_cons]
  omega

theorem closeAmong_eq_some_iff (hdepth : 0 < depth) :
    closeAmong depth ms = some k ↔ IsLeast {j | Closes depth ms j} k := by
  induction ms generalizing depth k with
  | nil =>
      constructor
      · exact nofun
      · rintro ⟨⟨hk, -⟩, -⟩
        cases hk
  | cons m ms ih =>
      by_cases hopen : m.is '(' = true
      · obtain rfl := Mark.eq_of_is hopen
        rw [closeAmong_open]
        apply map_succ_eq_some_iff _ (closes_succ_iff _) fun j => ih (Nat.succ_pos depth)
        · simp [closes_zero_iff]
        · simp
      · by_cases hclose : m.is ')' = true
        · obtain rfl := Mark.eq_of_is hclose
          rw [closeAmong_close]
          split
          · apply some_zero_eq_some_iff
            rw [closes_zero_iff]
            simp
            omega
          · apply map_succ_eq_some_iff _ (closes_succ_iff _) fun j => ih _
            · rw [closes_zero_iff]
              simp
              omega
            · simp
              omega
            · omega
        · rw [Bool.not_eq_true] at hopen hclose
          rw [closeAmong_other hopen hclose]
          apply map_succ_eq_some_iff _ (closes_succ_iff _) fun j => ih hdepth
          · rw [closes_zero_iff, hopen, hclose]
            simp
            omega
          · rw [hopen, hclose]

theorem matchingClose_eq_some_iff (t : Text) :
    matchingClose ('(' :: t) = some k ↔
      IsLeast {j | j < t.length + 1 ∧ EvenlyClosed (('(' :: t).take (j + 1))} k := by
  rw [matchingClose, marks_cons rfl, closeAmong_open]
  apply map_succ_eq_some_iff _ _ fun j => closeAmong_eq_some_iff Nat.one_pos
  · rintro ⟨-, heven⟩
    cases heven
  · intro j
    rw [EvenlyClosed, marks_take, marks_cons rfl, List.take_succ_cons, countOf_cons, countOf_cons,
      Closes, length_marks]
    simp
    omega

/-- The place of the parenthesis that closes the one at a place. -/
def closeOf (s : Text) (o : Nat) : Option Nat := (matchingClose (s.drop o)).map (· + o)

theorem closeOf_eq_some_iff (ho : s[o]? = some '(') :
    closeOf s o = some k ↔
      IsLeast {c | o ≤ c ∧ c < s.length ∧ EvenlyClosed ((s.take (c + 1)).drop o)} k := by
  obtain ⟨hlt, hget⟩ := List.getElem?_eq_some_iff.mp ho
  rw [closeOf, List.drop_eq_getElem_cons hlt, hget]
  apply map_add_eq_some_iff _ fun j => matchingClose_eq_some_iff _
  intro c
  rw [List.drop_take, List.drop_eq_getElem_cons hlt, hget, List.length_drop]
  constructor
  · rintro ⟨hoc, hc, heven⟩
    refine ⟨c - o, by omega, by omega, ?_⟩
    rwa [show c - o + 1 = c + 1 - o by omega]
  · rintro ⟨j, rfl, hj, heven⟩
    refine ⟨by omega, by omega, ?_⟩
    rwa [show j + o + 1 - o = j + 1 by omega]

/-- The last mark closes the outermost of `depth` open parentheses, and none before it does. -/
def ClosesLast (depth : Nat) (ms : List Mark) : Prop :=
  (closeAmong depth ms).map (· + 1) = some ms.length

theorem not_closesLast_nil (depth : Nat) : ¬ClosesLast depth [] := nofun

theorem closesLast_open : ClosesLast depth (⟨'(', true⟩ :: ms) ↔ ClosesLast (depth + 1) ms := by
  rw [ClosesLast, ClosesLast, closeAmong_open]
  simp

theorem closesLast_other {m : Mark} (hopen : m.is '(' = false) (hclose : m.is ')' = false) :
    ClosesLast depth (m :: ms) ↔ ClosesLast depth ms := by
  rw [ClosesLast, ClosesLast, closeAmong_other hopen hclose]
  simp

theorem closesLast_close_one : ClosesLast 1 (⟨')', true⟩ :: ms) ↔ ms = [] := by
  rw [ClosesLast, closeAmong_close, if_pos (le_refl 1)]
  simp

theorem closesLast_close_succ :
    ClosesLast (depth + 2) (⟨')', true⟩ :: ms) ↔ ClosesLast (depth + 1) ms := by
  rw [ClosesLast, ClosesLast, closeAmong_close, if_neg (by omega)]
  simp

/-- The last mark closes a parenthesis that was open before the marks, or one among them. From that one
on, looking ahead leads to the last mark. -/
theorem openAmong_eq_some_iff (opened : List Nat) :
    openAmong opened place ms = some o ↔
      (∃ n, opened[n]? = some o ∧ ClosesLast (n + 1) ms) ∨
        ∃ k, o = place + k ∧ ms[k]? = some ⟨'(', true⟩ ∧ ClosesLast 1 (ms.drop (k + 1)) := by
  induction ms generalizing opened place with
  | nil => simp [openAmong, not_closesLast_nil]
  | cons m ms ih =>
      -- what is found among the marks is the first of them or a later one
      have hlater : (∃ k, o = place + k ∧ (m :: ms)[k]? = some ⟨'(', true⟩ ∧
          ClosesLast 1 ((m :: ms).drop (k + 1))) ↔
            (o = place ∧ m = ⟨'(', true⟩ ∧ ClosesLast 1 ms) ∨
              ∃ k, o = place + 1 + k ∧ ms[k]? = some ⟨'(', true⟩ ∧
                ClosesLast 1 (ms.drop (k + 1)) := by
        rw [← Nat.or_exists_add_one]
        simp [Nat.add_assoc, Nat.add_comm 1]
      rw [hlater]
      by_cases hopen : m.is '(' = true
      · obtain rfl := Mark.eq_of_is hopen
        rw [openAmong_open, ih, ← or_assoc, ← Nat.or_exists_add_one]
        apply or_congr_left
        simp [closesLast_open, or_comm, eq_comm]
      · have hne : m ≠ ⟨'(', true⟩ := by
          rintro rfl
          exact hopen rfl
        by_cases hclose : m.is ')' = true
        · obtain rfl := Mark.eq_of_is hclose
          rw [openAmong_close, ← Nat.or_exists_add_one]
          simp only [Nat.zero_add, closesLast_close_succ, closesLast_close_one, hne, false_and,
            and_false, false_or]
          cases ms with
          | nil => simp [not_closesLast_nil, List.head?_eq_getElem?]
          | cons m' ms =>
              rw [List.isEmpty_cons, if_neg Bool.false_ne_true, ih]
              simp
        · rw [Bool.not_eq_true] at hopen hclose
          rw [openAmong_other hopen hclose, ih]
          simp only [closesLast_other hopen hclose, hne, false_and, and_false, false_or]

theorem trailingOpen_eq_some_iff :
    trailingOpen s = some o ↔
      (marks s)[o]? = some ⟨'(', true⟩ ∧ ClosesLast 1 ((marks s).drop (o + 1)) := by
  rw [trailingOpen, openAmong_eq_some_iff]
  simp

theorem closeOf_eq_last_iff (ho : (marks s)[o]? = some ⟨'(', true⟩) :
    closeOf s o = some (s.length - 1) ↔ ClosesLast 1 ((marks s).drop (o + 1)) := by
  obtain ⟨hlt, hget⟩ := List.getElem?_eq_some_iff.mp ho
  rw [closeOf, matchingClose, marks_drop_of_bare ho rfl, List.drop_eq_getElem_cons hlt, hget,
    closeAmong_open, ClosesLast, List.length_drop, length_marks]
  rw [length_marks] at hlt
  simp only [Option.map_map, Option.map_eq_some_iff, Function.comp_apply]
  apply exists_congr
  intro k
  apply and_congr_right
  intro _
  omega

theorem closeAmong_getElem? (h : closeAmong depth ms = some k) :
    ms[k]? = some ⟨')', true⟩ := by
  induction ms generalizing depth k with
  | nil => cases h
  | cons m ms ih =>
      have hlater : ∀ {found : Option Nat}, (∀ {j}, found = some j → ms[j]? = some ⟨')', true⟩) →
          found.map (· + 1) = some k → (m :: ms)[k]? = some ⟨')', true⟩ := by
        intro found hfound h
        obtain ⟨j, hj, rfl⟩ := Option.map_eq_some_iff.mp h
        exact hfound hj
      rw [closeAmong] at h
      split at h
      · exact hlater ih h
      · split at h
        · rename_i hclose
          obtain rfl := Mark.eq_of_is hclose
          split at h
          · cases h
            rfl
          · exact hlater ih h
        · exact hlater ih h

theorem ClosesLast.getLast? (h : ClosesLast depth ms) : ms.getLast? = some ⟨')', true⟩ := by
  obtain ⟨k, hk, hlength⟩ := Option.map_eq_some_iff.mp h
  rw [List.getLast?_eq_getElem?, ← hlength, Nat.add_sub_cancel]
  exact closeAmong_getElem? hk

theorem getLast?_of_trailingOpen (h : trailingOpen s = some o) : s.getLast? = some ')' := by
  obtain ⟨-, hclose⟩ := trailingOpen_eq_some_iff.mp h
  have hlast := hclose.getLast?
  rw [List.getLast?_drop] at hlast
  split at hlast
  · cases hlast
  · rw [← marks_map_char s, List.getLast?_map, hlast]
    rfl

theorem closeOf_bytes (s : Text) (o : Nat) :
    closeOf s.bytes (s.byteOffset o) = (closeOf s o).map s.byteOffset := by
  rw [closeOf, closeOf, Text.drop_bytes, matchingClose_bytes, Option.map_map, Option.map_map]
  congr 1
  funext k
  rw [Function.comp_apply, Function.comp_apply, Nat.add_comm k o, Text.byteOffset_add,
    Nat.add_comm]

/-- Looking back from the end of a script gives the parenthesis from which looking ahead gives the end,
and no other; and looking ahead from any parenthesis, also one within quotes, gives the nearest place up
to which as many are closed as opened. Places are the same in bytes. -/
theorem matchers_inverse (s : Text) :
    (∀ o, trailingOpen s = some o ↔
      (marks s)[o]? = some ⟨'(', true⟩ ∧ closeOf s o = some (s.length - 1)) ∧
    (∀ o, s[o]? = some '(' →
      (∀ c, closeOf s o = some c ↔
        IsLeast {c | o ≤ c ∧ c < s.length ∧ EvenlyClosed ((s.take (c + 1)).drop o)} c) ∧
      (closeOf s o = none ↔
        ∀ c, ¬(o ≤ c ∧ c < s.length ∧ EvenlyClosed ((s.take (c + 1)).drop o)))) ∧
    trailingOpen s.bytes = (trailingOpen s).map s.byteOffset ∧
    ∀ o, closeOf s.bytes (s.byteOffset o) = (closeOf s o).map s.byteOffset := by
  refine ⟨fun o => ?_, fun o ho => ?_, trailingOpen_bytes s, closeOf_bytes s⟩
  · rw [trailingOpen_eq_some_iff]
    apply and_congr_right
    intro ho
    exact (closeOf_eq_last_iff ho).symm
  · have hfound := fun k => closeOf_eq_some_iff (k := k) ho
    exact ⟨hfound, eq_none_iff_of_isLeast hfound⟩

/-- From the parenthesis within quotes the scan ahead takes the end of that quoted text for the start of
one, and comes to the same end. A quote that stays open hides what would close. -/
theorem matchers_inverse_quoted :
    let s := "')(é'), f('\\')', (a))".toList
    let t := "(\"a)".toList
    (s[2]? = some '(' ∧
      IsLeast {c | 2 ≤ c ∧ c < s.length ∧ EvenlyClosed ((s.take (c + 1)).drop 2)} 20) ∧
    (trailingOpen s = some 9 ∧ closeOf s 9 = some 20 ∧ trailingOpen (Text.bytes s) = some 10) ∧
    t[0]? = some '(' ∧
      ∀ c, ¬(0 ≤ c ∧ c < t.length ∧ EvenlyClosed ((t.take (c + 1)).drop 0)) := by
  intro s t
  obtain ⟨hback, hahead, hbytes, -⟩ := matchers_inverse s
  obtain ⟨-, hahead', -, -⟩ := matchers_inverse t
  have hquoted : s[2]? = some '(' := by decide
  have hfirst : t[0]? = some '(' := by decide
  have hclose : closeOf s 9 = some 20 := by decide
  have hopen : trailingOpen s = some 9 := (hback 9).mpr ⟨by decide, hclose⟩
  rw [hopen] at hbytes
  exact ⟨⟨hquoted, ((hahead 2 hquoted).1 20).mp (by decide)⟩, ⟨hopen, hclose, hbytes⟩, hfirst,
    (hahead' 0 hfirst).2.mp (by decide)⟩

end CopyFormat.Script
