import CopyFormat.Proofs.Script.Delimiters

/-!
Recognising the shapes of texts that write expressions: the shape that belongs to such a text
fits at the right places, and the shapes that are tried before it do not fit.
-/

namespace CopyFormat.Script.Shape

open CopyFormat.Script

variable {ctx : Context} {s t : Text}

/-! ### Choices -/

theorem choice?_eq_none {p : Char → Prop} (h : Balances p 0 s) (hp : ¬p '?') :
    choice? s = none := by
  rw [Option.eq_none_iff_forall_ne_some]
  intro shape hshape
  obtain ⟨r, hr, hshape⟩ := Option.bind_eq_some_iff.mp hshape
  have hbalanced : Balances p 0 (Text.trimStart r) := by
    rw [Text.after?_eq_some hr] at h
    exact ((h.of_plain_cons (by decide)).of_plain_cons (by decide)).trimStart
  generalize Text.trimStart r = rest at hshape hbalanced
  cases rest with
  | nil => cases hshape
  | cons c rest =>
      by_cases hc : c = '('
      · subst hc
        obtain ⟨close, hclose, hshape⟩ := Option.bind_eq_some_iff.mp hshape
        obtain ⟨branches, hbranches, -⟩ := Option.bind_eq_some_iff.mp hshape
        cases hbalanced with
        | plain hplain _ _ => cases hplain
        | quoted hquote _ _ => cases hquote
        | opening hrest =>
            rw [matchingClose, marks_cons rfl, closeAmong_open] at hclose
            obtain ⟨k, hk, rfl⟩ := Option.map_eq_some_iff.mp hclose
            have htail := (hrest.drop_close hk).trimStart
            change Text.after? ['?'] (Text.trimStart (rest.drop (k + 1))) =
              some branches at hbranches
            rw [Text.after?_eq_some hbranches] at htail
            cases htail with
            | plain _ htop _ => exact hp (htop rfl)
            | quoted hquote _ _ => cases hquote
      · have hnone : ((c :: rest).head? != some '(') = true := by simpa using hc
        simp only [hnone, if_true] at hshape
        cases hshape

theorem choice?_written {p : Char → Prop} {u c v : Text} (hu : u.isBlankText = true)
    (hv : v.isBlankText = true) (hc : Balances p 0 c)
    (hs : branchColon (s ++ ':' :: t) = some s.length) :
    choice? (Text.lit "if" ++ (u ++ '(' :: (c ++ ')' :: (v ++ '?' :: (s ++ ':' :: t))))) =
      some (.choice (Text.trim c) (Text.trim s) (Text.trim t)) := by
  have hword : ∀ r : Text, Text.after? ['i', 'f'] (Text.lit "if" ++ r) = some r :=
    Text.after?_append ['i', 'f']
  have hrest : ∀ r : Text, Text.trimStart (u ++ '(' :: r) = '(' :: r := by
    intro r
    rw [Text.trimStart_blank_append hu, Text.trimStart_cons (by decide)]
  have hclose : ∀ r : Text, matchingClose ('(' :: (c ++ ')' :: r)) = some (c.length + 1) := by
    intro r
    have happend := hc.closeAmong_append Nat.one_pos (marks (')' :: r))
    rw [Nat.zero_add] at happend
    rw [matchingClose, marks_cons rfl, closeAmong_open, hc.marks_append, happend, marks_cons rfl,
      closeAmong_close]
    simp
  have hbehind : ∀ r : Text, ('(' :: (c ++ ')' :: r)).drop (c.length + 1 + 1) = r := by
    intro r
    rw [List.drop_succ_cons, List.drop_append]
    simp
  have hinside : ∀ r : Text, (('(' :: (c ++ ')' :: r)).take (c.length + 1)).drop 1 = c := by
    intro r
    rw [List.take_succ_cons, List.take_left' rfl]
    rfl
  have hquestion : ∀ r : Text, Text.after? ['?'] (Text.trimStart (v ++ '?' :: r)) = some r := by
    intro r
    rw [Text.trimStart_blank_append hv, Text.trimStart_cons (by decide)]
    exact Text.after?_append ['?'] r
  rw [choice?]
  simp only [hword, Option.bind_eq_bind, Option.bind_some, hrest, hclose, hbehind, hinside,
    hquestion, hs]
  simp

/-! ### Indices -/

theorem trimStart_index {i : Text} (hi : IsIndex i) (t : Text) :
    Text.trimStart (i ++ t) = i ++ t := by
  cases i with
  | nil => exact absurd rfl hi.ne_nil
  | cons c r => exact Text.trimStart_cons (isBlank_of_isDigit (hi.isDigit c List.mem_cons_self)) _

theorem index?_append {i : Text} (hi : IsIndex i)
    (ht : ∀ c, t.head? = some c → c.isDigit = false) :
    index? (i ++ t) = some (indexValue i, t) := by
  have htake : t.takeWhile Char.isDigit = [] := by
    cases t with
    | nil => rfl
    | cons c r => rw [List.takeWhile_cons_of_neg (by simp [ht c rfl])]
  have hdrop : t.dropWhile Char.isDigit = t := by
    cases t with
    | nil => rfl
    | cons c r => rw [List.dropWhile_cons_of_neg (by simp [ht c rfl])]
  have hempty : i.isEmpty = false := by simpa using hi.ne_nil
  have hlength : decide (maxDigits < i.length) = false :=
    decide_eq_false (Nat.not_lt_of_le hi.length_le)
  rw [index?, List.takeWhile_append_of_pos hi.isDigit, htake, List.append_nil,
    List.dropWhile_append_of_pos hi.isDigit, hdrop]
  simp only [hempty, hlength, Bool.or_false, Bool.false_eq_true, if_false,
    numeral_eq_indexValue hi.isDigit]

theorem index?_eq_some {r : Text} {n : Nat} (h : index? t = some (n, r)) :
    ∃ i, t = i ++ r ∧ IsIndex i := by
  rw [index?] at h
  split at h
  · cases h
  · rename_i hcond
    cases h
    simp only [Bool.or_eq_true, decide_eq_true_eq, not_or, List.isEmpty_iff] at hcond
    refine ⟨_, (List.takeWhile_append_dropWhile).symm, hcond.1, Nat.not_lt.mp hcond.2, ?_⟩
    intro c hc
    exact List.mem_takeWhile_imp hc

/-! ### Lengths -/

theorem read?_written {spelling : String} {comparison : Comparison}
    (h : (spelling, comparison) ∈ Comparison.table) (ht : ∀ c, t.head? = some c → c ≠ '=') :
    Comparison.read? (spelling.toList ++ t) = some (comparison, t) := by
  have hequal : ∀ lead : Text, Text.after? ('=' :: lead) t = none := by
    intro lead
    cases t with
    | nil => rfl
    | cons c r => rw [Text.after?, if_neg (ht c rfl).symm]
  simp only [Comparison.table, List.mem_cons, Prod.mk.injEq, List.not_mem_nil, or_false] at h
  rcases h with ⟨rfl, rfl⟩ | ⟨rfl, rfl⟩ | ⟨rfl, rfl⟩ | ⟨rfl, rfl⟩ | ⟨rfl, rfl⟩ | ⟨rfl, rfl⟩
  all_goals simp [Comparison.read?, Comparison.table, Text.after?, hequal]

theorem read?_eq_some {comparison : Comparison} {r : Text}
    (h : Comparison.read? t = some (comparison, r)) : ∃ w, t = w ++ r := by
  obtain ⟨p, -, hp⟩ := List.exists_of_findSome?_eq_some h
  obtain ⟨r', hafter, hpair⟩ := Option.map_eq_some_iff.mp hp
  cases hpair
  exact ⟨_, Text.after?_eq_some hafter⟩

theorem spelling_head? {spelling : String} {comparison : Comparison}
    (h : (spelling, comparison) ∈ Comparison.table) :
    ∃ c, spelling.toList.head? = some c ∧ isBlank c = false := by
  have hall : Comparison.table.all fun p => p.1.toList.head?.any fun c => !isBlank c := by decide
  have hany := List.all_eq_true.mp hall _ h
  obtain ⟨c, hc, hblank⟩ := (Option.any_eq_true ..).mp hany
  exact ⟨c, hc, by simpa using hblank⟩

theorem lengthTail?_written {spelling : String} {comparison : Comparison} {u v digits : Text}
    (h : (spelling, comparison) ∈ Comparison.table) (hu : u.isBlankText = true)
    (hv : v.isBlankText = true) (hdigits : IsIndex digits) :
    lengthTail? (u ++ (spelling.toList ++ (v ++ digits))) =
      some (comparison, indexValue digits) := by
  obtain ⟨c, hc, hblank⟩ := spelling_head? h
  have hhead : (spelling.toList ++ (v ++ digits)).head? = some c := by
    rw [List.head?_append, hc]
    rfl
  have hne : ∀ d, (v ++ digits).head? = some d → d ≠ '=' := by
    intro d hd
    have hmem : d ∈ v ++ digits := List.mem_of_head? hd
    rintro rfl
    rcases List.mem_append.mp hmem with hmem | hmem
    · exact absurd (Text.isBlankText_iff.mp hv _ hmem) (by decide)
    · exact absurd (hdigits.isDigit _ hmem) (by decide)
  have hindex := index?_append hdigits (t := []) (by simp)
  have hrest := trimStart_index hdigits []
  rw [List.append_nil] at hindex hrest
  rw [lengthTail?, Text.trimStart_blank_append hu, Text.trimStart_of_head? hhead hblank,
    read?_written h hne]
  simp only [Option.bind_eq_bind, Option.bind_some]
  rw [Text.trimStart_blank_append hv, hrest, hindex]
  rfl

theorem getLast?_group (head inner : Text) :
    (head ++ '(' :: (inner ++ [')'])).getLast? = some ')' := by
  rw [← List.cons_append, ← List.append_assoc, List.getLast?_concat]

theorem lengthTail?_getLast? (h : (lengthTail? t).isSome = true) :
    ∃ c, t.getLast? = some c ∧ c.isDigit = true := by
  obtain ⟨⟨comparison, bound⟩, h⟩ := Option.isSome_iff_exists.mp h
  obtain ⟨⟨c, r⟩, hread, h⟩ := Option.bind_eq_some_iff.mp h
  obtain ⟨⟨n, r'⟩, hindex, h⟩ := Option.bind_eq_some_iff.mp h
  have hr' : r' = [] := by
    by_contra hne
    have hempty : r'.isEmpty = false := by simpa using hne
    simp only [hempty, Bool.false_eq_true, if_false] at h
    cases h
  obtain ⟨u, -, ht⟩ := t.exists_trimStart
  obtain ⟨w, hw⟩ := read?_eq_some hread
  obtain ⟨v, -, hr⟩ := r.exists_trimStart
  obtain ⟨i, hi, hindex⟩ := index?_eq_some hindex
  rw [hr', List.append_nil] at hi
  have hlast := List.getLast?_eq_some_getLast hindex.ne_nil
  refine ⟨i.getLast hindex.ne_nil, ?_, hindex.isDigit _ (List.getLast_mem hindex.ne_nil)⟩
  rw [ht, hw, hr, hi, ← List.append_assoc, ← List.append_assoc,
    List.getLast?_append_of_ne_nil _ hindex.ne_nil, hlast]

theorem lengthForm?_eq_none_of_not_mem {c : Char} (hc : c ∈ Text.lit ".length") (hs : c ∉ s) :
    lengthForm? s = none := by
  rw [lengthForm?, Text.lastCut?_of_not_mem _ hc hs]
  rfl

theorem lengthForm?_eq_none_of_getLast? {c : Char} (hlast : s.getLast? = some c)
    (hc : c.isDigit = false) : lengthForm? s = none := by
  have hcut : Text.lastCut? (Text.lit ".length") (fun t => (lengthTail? t).isSome) s = none := by
    rw [Option.eq_none_iff_forall_ne_some]
    rintro ⟨target, tail⟩ hcut
    obtain ⟨rfl, htail⟩ := Text.lastCut?_eq_some hcut
    obtain ⟨d, hd, hdigit⟩ := lengthTail?_getLast? htail
    have hne : tail ≠ [] := by
      rintro rfl
      cases hd
    rw [List.getLast?_append_of_ne_nil _ hne, hd] at hlast
    cases hlast
    rw [hc] at hdigit
    cases hdigit
  rw [lengthForm?, hcut]
  rfl

theorem lengthForm?_written {spelling : String} {comparison : Comparison} {u v digits : Text}
    (hs : s ≠ []) (h : (spelling, comparison) ∈ Comparison.table) (hu : u.isBlankText = true)
    (hv : v.isBlankText = true) (hdigits : IsIndex digits) :
    lengthForm? (s ++ (Text.lit ".length" ++ (u ++ (spelling.toList ++ (v ++ digits))))) =
      some (Text.trim s, comparison, indexValue digits) := by
  have htail := lengthTail?_written h hu hv hdigits
  have hdot : '.' ∉ u ++ (spelling.toList ++ (v ++ digits)) := by
    simp only [List.mem_append, not_or]
    refine ⟨?_, ?_, ?_, ?_⟩
    · exact fun hmem => absurd (Text.isBlankText_iff.mp hu _ hmem) (by decide)
    · exact fun hmem => absurd (Comparison.spelling_chars h _ hmem) (by decide)
    · exact fun hmem => absurd (Text.isBlankText_iff.mp hv _ hmem) (by decide)
    · exact fun hmem => absurd (hdigits.isDigit _ hmem) (by decide)
  have hcut := Text.lastCut?_append (c := '.')
    (p := fun t => (lengthTail? t).isSome) s (Text.lit "length") (by decide)
    (Text.not_isInfix_of_not_mem hdot) (by simp only [htail]; rfl)
  have hempty : s.isEmpty = false := by simpa using hs
  have hform : Text.lastCut? (Text.lit ".length") (fun t => (lengthTail? t).isSome)
      (s ++ (Text.lit ".length" ++ (u ++ (spelling.toList ++ (v ++ digits))))) =
        some (s, u ++ (spelling.toList ++ (v ++ digits))) := by
    rw [← List.append_assoc]
    exact hcut
  rw [lengthForm?, hform]
  simp only [Option.bind_eq_bind, Option.bind_some, htail, hempty, Bool.false_eq_true, if_false]
  rfl

/-! ### Parts -/

theorem substringTail?_written {start : Nat} {stop : Option Nat} {r : Text}
    (h : WritesRange start stop r) : substringTail? (r ++ [')']) = some (start, stop) := by
  have hhead : ∀ {v : Text} {d : Char} {r : Text}, v.isBlankText = true → d.isDigit = false →
      ∀ c, (v ++ d :: r).head? = some c → c.isDigit = false := by
    intro v d r hv hd c hc
    cases v with
    | nil =>
        cases hc
        exact hd
    | cons e v =>
        cases hc
        have hblank := Text.isBlankText_iff.mp hv c List.mem_cons_self
        cases hdigit : c.isDigit with
        | false => rfl
        | true => rw [isBlank_of_isDigit hdigit] at hblank; cases hblank
  have hlast : ∀ {v : Text}, v.isBlankText = true → Text.trimStart (v ++ [')']) = [')'] :=
    fun hv => Text.trimStart_blank_append hv _
  cases h with
  | @toEnd u i v hu hi hv =>
      have hindex := index?_append hi (hhead (r := []) hv (show ')'.isDigit = false by decide))
      rw [List.append_assoc, List.append_assoc, substringTail?, Text.trimStart_blank_append hu,
        trimStart_index hi, hindex]
      simp only [Option.bind_eq_bind, Option.bind_some, hlast hv]
      rfl
  | @between u i v u' j v' hu hi hv hu' hj hv' =>
      have hindex := index?_append hi
        (hhead (r := u' ++ (j ++ (v' ++ [')']))) hv (show ','.isDigit = false by decide))
      have hindex' := index?_append hj (hhead (r := []) hv' (show ')'.isDigit = false by decide))
      have hcomma : Text.trimStart (v ++ ',' :: (u' ++ (j ++ (v' ++ [')'])))) =
          ',' :: (u' ++ (j ++ (v' ++ [')']))) := Text.trimStart_blank_append hv _
      simp only [List.append_assoc, List.cons_append]
      rw [substringTail?, Text.trimStart_blank_append hu, trimStart_index hi, hindex]
      simp only [Option.bind_eq_bind, Option.bind_some, hcomma]
      rw [Text.trimStart_blank_append hu', trimStart_index hj, hindex']
      simp only [Option.bind_some, hlast hv', if_true]
      rfl

theorem exists_of_substringTail? (h : (substringTail? t).isSome = true) :
    ∃ r, t = r ++ [')'] ∧ ∀ c ∈ r, isRangeChar c = true := by
  obtain ⟨⟨start, stop⟩, h⟩ := Option.isSome_iff_exists.mp h
  obtain ⟨⟨n, r⟩, hindex, h⟩ := Option.bind_eq_some_iff.mp h
  obtain ⟨u, hu, ht⟩ := t.exists_trimStart
  obtain ⟨i, hti, hi⟩ := index?_eq_some hindex
  obtain ⟨v, hv, hr⟩ := r.exists_trimStart
  have hfirst : ∀ c ∈ u ++ (i ++ v), isRangeChar c = true :=
    List.forall_mem_append.mpr ⟨isRangeChar_of_blank hu,
      List.forall_mem_append.mpr ⟨hi.isRangeChar, isRangeChar_of_blank hv⟩⟩
  dsimp only at h
  split at h
  · rename_i hclose
    refine ⟨u ++ (i ++ v), ?_, hfirst⟩
    rw [ht, hti, hr, hclose]
    simp
  · rename_i r₁ hcomma
    obtain ⟨⟨m, r₂⟩, hindex', h⟩ := Option.bind_eq_some_iff.mp h
    obtain ⟨u', hu', hr₁⟩ := Text.exists_trimStart r₁
    obtain ⟨j, hj', hj⟩ := index?_eq_some hindex'
    obtain ⟨v', hv', hr₂⟩ := r₂.exists_trimStart
    dsimp only at h
    split at h
    · rename_i hclose
      have hsecond : ∀ c ∈ u' ++ (j ++ v'), isRangeChar c = true :=
        List.forall_mem_append.mpr ⟨isRangeChar_of_blank hu',
          List.forall_mem_append.mpr ⟨hj.isRangeChar, isRangeChar_of_blank hv'⟩⟩
      refine ⟨u ++ (i ++ v) ++ ',' :: (u' ++ (j ++ v')), ?_, List.forall_mem_append.mpr
        ⟨hfirst, List.forall_mem_cons.mpr ⟨show isRangeChar ',' = true by decide, hsecond⟩⟩⟩
      rw [ht, hti, hr, hcomma, hr₁, hj', hr₂, hclose]
      simp
    · cases h
  · cases h

theorem substring?_written {start : Nat} {stop : Option Nat} {r : Text} (hs : s ≠ [])
    (h : WritesRange start stop r) :
    substring? (s ++ (Text.lit ".substring" ++ '(' :: (r ++ [')']))) =
      some (.substring (Text.trim s) start stop) := by
  have htail := substringTail?_written h
  have hdot : '.' ∉ r ++ [')'] := by
    rw [List.mem_append, not_or]
    exact ⟨fun hmem => absurd (h.isRangeChar _ hmem) (by decide), by decide⟩
  have hcut := Text.lastCut?_append (c := '.')
    (p := fun t => (substringTail? t).isSome) s (Text.lit "substring(") (by decide)
    (Text.not_isInfix_of_not_mem hdot) (by simp only [htail]; rfl)
  have hempty : s.isEmpty = false := by simpa using hs
  have hpart : Text.lastCut? (Text.lit ".substring(") (fun t => (substringTail? t).isSome)
      (s ++ (Text.lit ".substring" ++ '(' :: (r ++ [')']))) = some (s, r ++ [')']) := by
    rw [← hcut]
    congr 1
    rw [List.append_assoc]
    rfl
  rw [substring?, hpart]
  simp only [Option.bind_eq_bind, Option.bind_some, htail, hempty, Bool.false_eq_true, if_false]
  rfl

theorem substring?_eq_none_of_not_mem {c : Char} (hc : c ∈ Text.lit ".substring(") (hs : c ∉ s) :
    substring? s = none := by
  rw [substring?, Text.lastCut?_of_not_mem _ hc hs]
  rfl

theorem exists_of_substring? {shape : Shape} (h : substring? s = some shape) :
    ∃ target r, s = target ++ Text.lit ".substring" ++ '(' :: (r ++ [')']) ∧
      ∀ c ∈ r, isRangeChar c = true := by
  obtain ⟨⟨target, tail⟩, hcut, -⟩ := Option.bind_eq_some_iff.mp h
  obtain ⟨hs, htail⟩ := Text.lastCut?_eq_some hcut
  obtain ⟨r, rfl, hr⟩ := exists_of_substringTail? htail
  refine ⟨target, r, ?_, hr⟩
  rw [hs, List.append_assoc, List.append_assoc]
  rfl

theorem substring?_eq_none_of_getLast? {c : Char} (hlast : s.getLast? = some c) (hc : c ≠ ')') :
    substring? s = none := by
  rw [Option.eq_none_iff_forall_ne_some]
  intro shape h
  obtain ⟨target, r, rfl, -⟩ := exists_of_substring? h
  rw [getLast?_group] at hlast
  cases hlast
  exact hc rfl

theorem substring?_eq_none_of_group {p : Char → Prop} {head inner : Text}
    (hinner : Balances p 0 inner) (hhead : ∀ u, head ≠ u ++ Text.lit ".substring") :
    substring? (head ++ '(' :: (inner ++ [')'])) = none := by
  rw [Option.eq_none_iff_forall_ne_some]
  intro shape h
  obtain ⟨target, r, heq, hr⟩ := exists_of_substring? h
  rw [← List.cons_append, ← List.append_assoc, ← List.cons_append, ← List.append_assoc] at heq
  have hinit : head ++ '(' :: inner = target ++ Text.lit ".substring" ++ '(' :: r :=
    List.append_cancel_right heq
  rcases List.append_eq_append_iff.mp hinit with ⟨a, ha, hgroup⟩ | ⟨a, ha, hgroup⟩
  · rcases List.cons_eq_append_iff.mp hgroup with ⟨rfl, -⟩ | ⟨a, rfl, rfl⟩
    · rw [List.append_nil] at ha
      exact hhead _ ha.symm
    · rcases hinner.close_or_quote_mem with hmem | ⟨q, hmem, hq⟩
      · exact absurd (hr _ hmem) (by decide)
      · have hrange := hr q hmem
        rcases isQuote_iff.mp hq with rfl | rfl <;> exact absurd hrange (by decide)
  · rcases List.cons_eq_append_iff.mp hgroup with ⟨rfl, -⟩ | ⟨a, rfl, rfl⟩
    · rw [List.append_nil] at ha
      exact hhead _ ha
    · exact absurd (hr '(' (by simp)) (by decide)

end CopyFormat.Script.Shape
