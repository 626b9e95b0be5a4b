import CopyFormat.Proofs.Script.Balanced
import CopyFormat.Proofs.Text.Split

/-!
The parts of a script between the delimiters at its top level. Behind such a delimiter a scan is in
the state in which it started, so that each part is scanned on its own as it was in the script
(`part_induction`).
-/

namespace CopyFormat.Script

variable {c d : Char} {s t u : Text}

/-! ### Single marks -/

theorem Mark.is_iff {m : Mark} {c : Char} : m.is c = true ↔ m.bare = true ∧ m.char = c := by
  simp [Mark.is]

theorem Mark.eq_of_is {m : Mark} {c : Char} (h : m.is c = true) : m = ⟨c, true⟩ := by
  obtain ⟨hbare, hchar⟩ := Mark.is_iff.mp h
  rw [← hbare, ← hchar]

theorem plain_is_bracket {c d : Char} (hc : isPlain c = true) (hd : isBracket d = true) :
    (⟨c, true⟩ : Mark).is d = false := by
  rw [Mark.is_bare, beq_eq_false_iff_ne]
  rintro rfl
  rw [(isPlain_iff.mp hc).2] at hd
  cases hd

theorem depthBehind_plain {c : Char} (hc : isPlain c = true) (depth : Nat) :
    depthBehind depth ⟨c, true⟩ = depth := by
  simp [depthBehind, -Mark.is_bare, plain_is_bracket hc (show isBracket '(' = true by decide),
    plain_is_bracket hc (show isBracket '[' = true by decide),
    plain_is_bracket hc (show isBracket ')' = true by decide),
    plain_is_bracket hc (show isBracket ']' = true by decide)]

/-! ### The state of a scan -/

/-- The quote that is open behind a text which starts inside the given one. -/
def quoteBehind : Option Char → Text → Option Char
  | quote, [] => quote
  | none, c :: r => quoteBehind (if isQuote c then some c else none) r
  | some q, ['\\'] => some q
  | some q, '\\' :: _ :: r => quoteBehind (some q) r
  | some q, c :: r => quoteBehind (if c = q then none else some q) r

/-- How many brackets are open behind a text. -/
def depthOf (s : Text) : Nat := (marks s).foldl depthBehind 0

def EndsAtTop (s : Text) : Prop := quoteBehind none s = none ∧ depthOf s = 0

instance (s : Text) : Decidable (EndsAtTop s) := inferInstanceAs (Decidable (_ ∧ _))

theorem ne_backslash {c : Char} {r : Text} (hend : c = '\\' → r = [] → False)
    (hpair : ∀ d r', c = '\\' → r = d :: r' → False) : c ≠ '\\' := by
  intro hc
  cases r with
  | nil => exact hend hc rfl
  | cons d r' => exact hpair d r' hc rfl

theorem marksIn_concat (quote : Option Char) (s : Text) (d : Char) :
    marksIn quote (s ++ [d]) =
      marksIn quote s ++ [⟨d, (quoteBehind quote s).isNone && !isQuote d⟩] := by
  fun_induction quoteBehind quote s with
  | case1 quote =>
      cases quote with
      | none => cases h : isQuote d <;> simp [marksIn, h]
      | some q => simp [marksIn]
  | case2 c r ih =>
      rw [List.cons_append, marksIn_none_cons, marksIn_none_cons]
      cases h : isQuote c <;> simp_all
  | case3 q => rfl
  | case4 q e r ih => exact congrArg (⟨'\\', false⟩ :: ⟨e, false⟩ :: ·) ih
  | case5 q c r hend hpair ih =>
      have hc : c ≠ '\\' := ne_backslash hend hpair
      rw [List.cons_append, marksIn_quote hc, marksIn_quote hc, ih, List.cons_append]

/-- Behind a text that ends outside quotes a scan starts anew. -/
theorem marksIn_append {quote : Option Char} (h : quoteBehind quote s = none) (t : Text) :
    marksIn quote (s ++ t) = marksIn quote s ++ marks t := by
  fun_induction quoteBehind quote s with
  | case1 quote =>
      rw [h]
      rfl
  | case2 c r ih =>
      rw [List.cons_append, marksIn_none_cons, marksIn_none_cons]
      cases hc : isQuote c <;> simp_all
  | case3 q => cases h
  | case4 q e r ih => exact congrArg (⟨'\\', false⟩ :: ⟨e, false⟩ :: ·) (ih h)
  | case5 q c r hend hpair ih =>
      have hc : c ≠ '\\' := ne_backslash hend hpair
      rw [List.cons_append, marksIn_quote hc, marksIn_quote hc, ih h, List.cons_append]

theorem quoteBehind_of_marks_append (h : ∀ t, marks (u ++ t) = marks u ++ marks t) :
    quoteBehind none u = none := by
  -- a blank behind the text is bare just when no quote is open there
  have hblank := h [' ']
  rw [marks, marksIn_concat] at hblank
  simpa [marks, marksIn, isQuote] using List.append_cancel_left hblank

theorem length_marks (s : Text) : (marks s).length = s.length := by
  rw [← List.length_map (f := Mark.char), marks_map_char]

theorem marks_prefix (s t : Text) : marks s <+: marks (s ++ t) := by
  induction t using List.reverseRecOn with
  | nil => rw [List.append_nil]
  | append_singleton t d ih =>
      rw [← List.append_assoc, marks, marks, marksIn_concat]
      exact ih.trans (List.prefix_append _ _)

theorem marks_take (s : Text) (n : Nat) : marks (s.take n) = (marks s).take n := by
  have hprefix := marks_prefix (s.take n) (s.drop n)
  rw [List.take_append_drop] at hprefix
  have htake := List.prefix_iff_eq_take.mp hprefix
  rw [length_marks, List.length_take, ← length_marks s] at htake
  rw [htake, ← List.take_take, List.take_length]

theorem marks_drop_of_bare {m : Mark} {k : Nat} (hm : (marks s)[k]? = some m)
    (hbare : m.bare = true) : marks (s.drop k) = (marks s).drop k := by
  obtain ⟨hk, -⟩ := List.getElem?_eq_some_iff.mp hm
  rw [length_marks] at hk
  have hcut := marks_take s (k + 1)
  rw [List.take_add_one, List.take_add_one, hm, List.getElem?_eq_getElem hk, Option.toList_some,
    Option.toList_some, marks, marksIn_concat, ← marks, marks_take] at hcut
  have hlast := List.append_cancel_left hcut
  have hquote : quoteBehind none (s.take k) = none := by
    rw [List.cons.injEq] at hlast
    rw [← hlast.1] at hbare
    simp only [Bool.and_eq_true, Option.isNone_iff_eq_none] at hbare
    exact hbare.1
  have hsplit := marksIn_append hquote (s.drop k)
  rw [List.take_append_drop, ← marks, ← marks] at hsplit
  have hlength : (marks (s.take k)).length = k := by
    rw [length_marks, List.length_take, min_eq_left (Nat.le_of_lt hk)]
  rw [hsplit, List.drop_left' hlength]

theorem topOf_append (depth : Nat) (l r : List Mark) :
    topOf depth (l ++ r) = topOf depth l ++ topOf (l.foldl depthBehind depth) r := by
  induction l generalizing depth with
  | nil => rfl
  | cons m l ih => rw [List.cons_append, topOf, topOf, ih, List.foldl_cons, List.cons_append]

theorem topMarks_concat (s : Text) (d : Char) :
    topMarks (s ++ [d]) = topMarks s ++
      [⟨d, ((quoteBehind none s).isNone && !isQuote d) && depthOf s == 0 && !isBracket d⟩] := by
  rw [topMarks, marks, marksIn_concat, topOf_append]
  rfl

theorem topMarks_cons {c : Char} (hc : isPlain c = true) (t : Text) :
    topMarks (c :: t) = ⟨c, true⟩ :: topMarks t := by
  obtain ⟨hquote, hbracket⟩ := isPlain_iff.mp hc
  rw [topMarks, marks_cons hquote, topOf, depthBehind_plain hc, hbracket]
  rfl

theorem topOf_take (depth : Nat) (ms : List Mark) (n : Nat) :
    topOf depth (ms.take n) = (topOf depth ms).take n := by
  induction ms generalizing depth n with
  | nil => simp [topOf]
  | cons m ms ih =>
      cases n with
      | zero => rfl
      | succ n => rw [List.take_succ_cons, topOf, topOf, List.take_succ_cons, ih]

theorem topMarks_take (s : Text) (n : Nat) : topMarks (s.take n) = (topMarks s).take n := by
  rw [topMarks, marks_take, topOf_take]
  rfl

theorem EndsAtTop.marks_append (h : EndsAtTop u) (t : Text) :
    marks (u ++ t) = marks u ++ marks t := marksIn_append h.1 t

theorem EndsAtTop.topMarks_append (h : EndsAtTop u) (t : Text) :
    topMarks (u ++ t) = topMarks u ++ topMarks t := by
  rw [topMarks, h.marks_append, topOf_append]
  exact congrArg (fun depth => topMarks u ++ topOf depth (marks t)) h.2

theorem EndsAtTop.append (hu : EndsAtTop u) (ht : EndsAtTop t) : EndsAtTop (u ++ t) := by
  constructor
  · apply quoteBehind_of_marks_append
    intro v
    rw [List.append_assoc, hu.marks_append, ht.marks_append, hu.marks_append, List.append_assoc]
  · rw [depthOf, hu.marks_append, List.foldl_append, ← depthOf, hu.2]
    exact ht.2

theorem EndsAtTop.cons (hc : isPlain c = true) (h : EndsAtTop t) : EndsAtTop (c :: t) := by
  have hquote := (isPlain_iff.mp hc).1
  constructor
  · rw [quoteBehind, hquote]
    exact h.1
  · rw [depthOf, marks_cons hquote, List.foldl_cons, depthBehind_plain hc]
    exact h.2

/-! ### Parts -/

theorem findTop_eq_none_iff : findTop c s = none ↔ ∀ m ∈ topMarks s, m.is c = false :=
  List.findIdx?_eq_none_iff

theorem splitTop_of_none (h : findTop c s = none) : splitTop c s = [s] := by
  rw [splitTop, Text.stretches_of_none (findTop_eq_none_iff.mp h), List.map_singleton,
    topMarks_map_char]

section

variable (hc : isPlain c = true) (hu : EndsAtTop u) (hnone : findTop c u = none) (v : Text)

include hc hu hnone

theorem findTop_append_cons : findTop c (u ++ c :: v) = some u.length := by
  rw [findTop] at hnone
  rw [findTop, hu.topMarks_append, topMarks_cons hc, List.findIdx?_append, hnone,
    List.findIdx?_cons, Mark.is_bare, BEq.rfl]
  simp [topMarks_length]

theorem splitTop_append_cons : splitTop c (u ++ c :: v) = u :: splitTop c v := by
  have hfirst := findTop_eq_none_iff.mp hnone
  rw [splitTop, hu.topMarks_append, topMarks_cons hc, Text.stretches_append_cons (by simp),
    Text.stretches_of_none hfirst, List.singleton_append, List.map_cons, topMarks_map_char]
  rfl

end

theorem of_findTop_concat (hnone : findTop c u = none) (h : findTop c (u ++ [d]) ≠ none) :
    d = c ∧ EndsAtTop u := by
  have hfound : ¬∀ m ∈ topMarks (u ++ [d]), m.is c = false := mt findTop_eq_none_iff.mpr h
  rw [topMarks_concat, List.forall_mem_append, List.forall_mem_singleton] at hfound
  have hlast := eq_true_of_ne_false fun his => hfound ⟨findTop_eq_none_iff.mp hnone, his⟩
  obtain ⟨hbare, hchar⟩ := Mark.is_iff.mp hlast
  simp only [Bool.and_eq_true, Option.isNone_iff_eq_none, beq_iff_eq] at hbare
  exact ⟨hchar, hbare.1.1.1, hbare.1.2⟩

theorem part_induction (c : Char) {P : Text → Prop} (whole : ∀ s, findTop c s = none → P s)
    (cut : ∀ u v, EndsAtTop u → findTop c u = none → P v → P (u ++ c :: v)) (s : Text) : P s := by
  -- `u` is what has been read of the first part
  suffices h : ∀ u, findTop c u = none → P (u ++ s) by
    exact h [] rfl
  induction s with
  | nil =>
      intro u hu
      rw [List.append_nil]
      exact whole u hu
  | cons d s ih =>
      intro u hu
      by_cases hd : findTop c (u ++ [d]) = none
      · rw [← List.singleton_append, ← List.append_assoc]
        exact ih (u ++ [d]) hd
      · obtain ⟨rfl, htop⟩ := of_findTop_concat hu hd
        exact cut u s htop hu (ih [] rfl)

theorem splitTop_ne_nil (c : Char) (s : Text) : splitTop c s ≠ [] := by
  rw [splitTop, ne_eq, List.map_eq_nil_iff]
  exact Text.stretches_ne_nil _ _

theorem join_splitTop (hc : isPlain c = true) (s : Text) : Text.join [c] (splitTop c s) = s := by
  induction s using part_induction c with
  | whole s hs => rw [splitTop_of_none hs, Text.join_singleton]
  | cut u v hu hnone ih =>
      rw [splitTop_append_cons hc hu hnone, Text.join_cons (splitTop_ne_nil c v), ih]
      rfl

theorem findTop_of_mem_splitTop (hc : isPlain c = true) :
    ∀ part ∈ splitTop c s, findTop c part = none := by
  induction s using part_induction c with
  | whole s hs =>
      rw [splitTop_of_none hs, List.forall_mem_singleton]
      exact hs
  | cut u v hu hnone ih =>
      rw [splitTop_append_cons hc hu hnone, List.forall_mem_cons]
      exact ⟨hnone, ih⟩

theorem findTop_eq_length (hc : isPlain c = true) (s : Text) :
    findTop c s =
      if 2 ≤ (splitTop c s).length then (splitTop c s).head?.map List.length else none := by
  induction s using part_induction c with
  | whole s hs => rw [splitTop_of_none hs, hs, if_neg (by simp)]
  | cut u v hu hnone _ =>
      have hrest := List.length_pos_iff.mpr (splitTop_ne_nil c v)
      rw [splitTop_append_cons hc hu hnone, findTop_append_cons hc hu hnone, List.length_cons,
        if_pos (by omega)]
      rfl

theorem splitTop_join_of_endsAtTop (hc : isPlain c = true) {parts : List Text} (hne : parts ≠ [])
    (h : ∀ part ∈ parts, EndsAtTop part ∧ findTop c part = none) :
    splitTop c (Text.join [c] parts) = parts := by
  induction parts with
  | nil => exact absurd rfl hne
  | cons part parts ih =>
      obtain ⟨⟨htop, hnone⟩, hparts⟩ := List.forall_mem_cons.mp h
      by_cases hlast : parts = []
      · rw [hlast, Text.join_singleton, splitTop_of_none hnone]
      · rw [Text.join_cons hlast, List.singleton_append, splitTop_append_cons hc htop hnone,
          ih hlast hparts]

/-- Splitting a script at a delimiter neither loses nor invents anything. -/
theorem splitTop_lossless (hc : isPlain c = true) :
    (∀ s, Text.join [c] (splitTop c s) = s ∧
      (∀ part ∈ splitTop c s, findTop c part = none) ∧
      findTop c s =
        if 2 ≤ (splitTop c s).length then (splitTop c s).head?.map List.length else none) ∧
      ∀ parts : List Text, parts ≠ [] →
        (∀ part ∈ parts, EndsAtTop part ∧ findTop c part = none) →
          splitTop c (Text.join [c] parts) = parts :=
  ⟨fun s => ⟨join_splitTop hc s, findTop_of_mem_splitTop hc, findTop_eq_length hc s⟩,
    fun _ hne h => splitTop_join_of_endsAtTop hc hne h⟩

/-- Commas in parentheses and in quotes stay, and a parenthesis that closes nothing is passed over. A
script whose last quote stays open comes back from its parts too. -/
theorem splitTop_lossless_unbalanced :
    isPlain ',' = true ∧
      splitTop ',' "f(a, b),), 'x,\\'y'".toList =
        ["f(a, b)".toList, ")".toList, " 'x,\\'y'".toList] ∧
      Text.join [','] (splitTop ',' "a],'b,c\\".toList) = "a],'b,c\\".toList := by
  have hc : isPlain ',' = true := by decide
  obtain ⟨hwhole, hparts⟩ := splitTop_lossless hc
  exact ⟨hc, hparts ["f(a, b)".toList, ")".toList, " 'x,\\'y'".toList] (by simp) (by decide),
    (hwhole _).1⟩

end CopyFormat.Script
