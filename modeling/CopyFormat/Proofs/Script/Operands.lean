import CopyFormat.Proofs.Script.Parentheses
import CopyFormat.Proofs.Script.Recognition

/-!
Recognising calls, literals and arithmetic, and that no operand is taken for anything else.
-/

namespace CopyFormat.Script.Shape

open CopyFormat.Script

variable {ctx : Context} {p : Char → Prop} {s t : Text}

theorem identifier?_eq_none_of_mem (hnames : ctx.HasNames) {c : Char} (hc : c ∈ s)
    (hname : isNameChar c = false) : identifier? ctx s = none := by
  have hcontains : ctx.contains s = false := by
    rw [Bool.eq_false_iff]
    intro hs
    rw [isNameChar_of_isName (hnames s hs) c hc] at hname
    cases hname
  rw [identifier?, hcontains]
  rfl

theorem identifier?_eq_none_of_forall (hnames : ctx.HasNames)
    (h : ∀ c ∈ s, isNameStart c = false) : identifier? ctx s = none := by
  have hcontains : ctx.contains s = false := by
    rw [Bool.eq_false_iff]
    intro hs
    have hname := hnames s hs
    cases s with
    | nil => cases hname
    | cons c r =>
        rw [isName, h c List.mem_cons_self] at hname
        cases hname
  rw [identifier?, hcontains]
  rfl

theorem trim_of_isName {name : Text} (h : isName name = true) : Text.trim name = name := by
  have hblank : ∀ c ∈ name, isBlank c = false := by
    intro c hc
    cases hb : isBlank c with
    | false => rfl
    | true =>
        have hnot := isNameChar_of_isBlank hb
        rw [isNameChar_of_isName h c hc] at hnot
        cases hnot
  cases name with
  | nil => rfl
  | cons c r =>
      have hlast := List.getLast?_eq_some_getLast (List.cons_ne_nil c r)
      exact Text.trim_of_ends rfl (hblank c List.mem_cons_self) hlast
        (hblank _ (List.getLast_mem _))

theorem trim_name {name u v : Text} (h : isName name = true) (hu : u.isBlankText = true)
    (hv : v.isBlankText = true) : Text.trim (u ++ name ++ v) = name := by
  rw [Text.trim_append_blank hv, Text.trim_blank_append hu, trim_of_isName h]

theorem isBlankText_join {c : Char} {ts : List Text} (hne : ts ≠ [])
    (h : ∀ t ∈ ts, t.isBlankText = false) : (Text.join [c] ts).isBlankText = false := by
  cases ts with
  | nil => exact absurd rfl hne
  | cons t ts =>
      have ht := h t List.mem_cons_self
      cases ts with
      | nil => rwa [Text.join_singleton]
      | cons t' ts =>
          rw [Text.join_cons_cons, Bool.eq_false_iff, ne_eq, Text.isBlankText_append, ht]
          exact fun hboth => absurd hboth.1 Bool.false_ne_true

theorem exists_trimStart_join {ts : List Text} (hblank : ∀ t ∈ ts, t.isBlankText = false)
    (h : ∀ t ∈ ts, Balances p 0 t) :
    ∃ ts', Text.trimStart (Text.join [','] ts) = Text.join [','] ts' ∧
      ts'.map Text.trim = ts.map Text.trim ∧ (∀ t ∈ ts', t.isBlankText = false) ∧
      ∀ t ∈ ts', Balances p 0 t := by
  cases ts with
  | nil => exact ⟨[], rfl, rfl, by simp, by simp⟩
  | cons t ts =>
      have ht := hblank t List.mem_cons_self
      have htrim : (Text.trimStart t).isBlankText = false := by
        rw [Bool.eq_false_iff, ne_eq, ← Text.trimStart_eq_nil_iff, Text.trimStart_trimStart,
          Text.trimStart_eq_nil_iff, ht]
        exact Bool.false_ne_true
      refine ⟨Text.trimStart t :: ts, ?_, ?_, ?_, ?_⟩
      · cases ts with
        | nil => rw [Text.join_singleton, Text.join_singleton]
        | cons t' ts => rw [Text.join_cons_cons, Text.join_cons_cons, Text.trimStart_append ht]
      · rw [List.map_cons, List.map_cons, Text.trim_trimStart]
      · exact List.forall_mem_cons.mpr ⟨htrim, fun u hu => hblank u (List.mem_cons_of_mem t hu)⟩
      · exact List.forall_mem_cons.mpr
          ⟨(h t List.mem_cons_self).trimStart, fun u hu => h u (List.mem_cons_of_mem t hu)⟩

theorem exists_trimEnd_join {ts : List Text} (hne : ts ≠ [])
    (hblank : ∀ t ∈ ts, t.isBlankText = false) (h : ∀ t ∈ ts, Balances p 0 t) :
    ∃ ts', ts' ≠ [] ∧ Text.trimEnd (Text.join [','] ts) = Text.join [','] ts' ∧
      ts'.map Text.trim = ts.map Text.trim ∧ ∀ t ∈ ts', Balances p 0 t := by
  induction ts with
  | nil => exact absurd rfl hne
  | cons t ts ih =>
      have ht := h t List.mem_cons_self
      cases ts with
      | nil =>
          refine ⟨[Text.trimEnd t], List.cons_ne_nil _ _, ?_, ?_, ?_⟩
          · rw [Text.join_singleton, Text.join_singleton]
          · rw [List.map_singleton, List.map_singleton, Text.trim_trimEnd]
          · exact List.forall_mem_singleton.mpr ht.trimEnd
      | cons t' ts =>
          have hrest : ∀ u ∈ t' :: ts, u.isBlankText = false :=
            fun u hu => hblank u (List.mem_cons_of_mem t hu)
          obtain ⟨us, husne, hus, hmap, hbal⟩ := ih (List.cons_ne_nil _ _) hrest
            fun u hu => h u (List.mem_cons_of_mem t hu)
          refine ⟨t :: us, List.cons_ne_nil _ _, ?_, ?_, ?_⟩
          · obtain ⟨u, us, rfl⟩ := List.exists_cons_of_ne_nil husne
            have hjoin := isBlankText_join (c := ',') (List.cons_ne_nil t' ts) hrest
            rw [Text.join_cons_cons, Text.join_cons_cons, ← List.append_assoc,
              Text.trimEnd_append _ hjoin, hus, List.append_assoc]
          · rw [List.map_cons, hmap]
            rfl
          · exact List.forall_mem_cons.mpr ⟨ht, hbal⟩

theorem arguments_written {w : Text} (hw : w.isBlankText = true) (hp : ¬p ',') {ts : List Text}
    (hblank : ∀ t ∈ ts, t.isBlankText = false) (h : ∀ t ∈ ts, Balances p 0 t) :
    (let inner := Text.trim (w ++ Text.join [','] ts)
      if inner.isEmpty then [] else (splitTop ',' inner).map Text.trim) = ts.map Text.trim := by
  rw [Text.trim_blank_append hw]
  by_cases hne : ts = []
  · subst hne
    rfl
  · obtain ⟨us, hus, hmap, hblank', hbal⟩ := exists_trimStart_join hblank h
    have husne : us ≠ [] := by
      rintro rfl
      rw [List.map_nil, eq_comm, List.map_eq_nil_iff] at hmap
      exact hne hmap
    obtain ⟨vs, hvsne, hvs, hmap', hbal'⟩ := exists_trimEnd_join husne hblank' hbal
    have htrim : Text.trim (Text.join [','] ts) = Text.join [','] vs := by
      rw [Text.trim, hus, hvs]
    have hfull : (Text.trim (Text.join [','] ts)).isEmpty = false := by
      rw [Bool.eq_false_iff, ne_eq, List.isEmpty_iff]
      intro hnil
      have hblankJoin := isBlankText_join (c := ',') hne hblank
      rw [Text.trim_eq_nil_iff, hblankJoin] at hnil
      cases hnil
    simp only [hfull, Bool.false_eq_true, if_false]
    rw [htrim, splitTop_join (by decide) hp hvsne hbal', hmap', hmap]

theorem call?_group {p' : Char → Prop} {head inner name : Text} {receiver : Option Text}
    {op : Operation} (hhead : Balances p' 0 head) (hinner : Balances p 0 inner)
    (hcallee : callee head = (receiver, name)) (hname : isName name = true)
    (hop : ctx.operation? name = some op) (hreceiver : receiver ≠ some []) :
    call? ctx (head ++ '(' :: (inner ++ [')'])) =
      some (.call name receiver (let inner := Text.trim inner
        if inner.isEmpty then [] else (splitTop ',' inner).map Text.trim)) := by
  have hdrop : (head ++ '(' :: (inner ++ [')'])).drop (head.length + 1) = inner ++ [')'] := by
    rw [List.drop_append]
    simp
  rw [call?, trailingOpen_group hhead hinner]
  simp only [Option.bind_eq_bind, Option.bind_some, List.take_left, hdrop, List.dropLast_concat,
    hcallee, hname, hop, Option.isNone_some, Bool.not_true, Bool.or_self, Bool.false_eq_true,
    if_false, hreceiver]
  rfl

theorem call?_written {p' : Char → Prop} {head name w : Text} {receiver : Option Text}
    {op : Operation} {ts : List Text} (hhead : Balances p' 0 head)
    (hcallee : callee head = (receiver, name))
    (hname : isName name = true) (hop : ctx.operation? name = some op)
    (hreceiver : receiver ≠ some []) (hw : w.isBlankText = true) (hp : ¬p ',')
    (hblank : ∀ t ∈ ts, t.isBlankText = false) (h : ∀ t ∈ ts, Balances p 0 t) :
    call? ctx (head ++ '(' :: (w ++ Text.join [','] ts ++ [')'])) =
      some (.call name receiver (ts.map Text.trim)) := by
  rw [call?_group hhead (balances_arguments hw h) hcallee hname hop hreceiver,
    arguments_written hw hp hblank h]

theorem call?_eq_none_of_getLast? {c : Char} (hlast : s.getLast? = some c) (hc : c ≠ ')') :
    call? ctx s = none := by
  have hopen : trailingOpen s = none := by
    rw [Option.eq_none_iff_forall_ne_some]
    intro k hk
    rw [getLast?_of_trailingOpen hk] at hlast
    cases hlast
    exact hc rfl
  rw [call?, hopen]
  rfl

theorem callee_of_not_mem {head : Text} (h : '.' ∉ head) :
    callee head = (none, Text.trim head) := by
  rw [callee, lastDot?, Text.lastCut?_of_not_mem _ List.mem_cons_self h]

theorem callee_append {before behind : Text} (h : '.' ∉ behind) :
    callee (before ++ '.' :: behind) = (some (Text.trim before), Text.trim behind) := by
  have hcut := Text.lastCut?_append (c := '.') (p := fun _ => true) before []
    List.not_mem_nil (Text.not_isInfix_of_not_mem h) rfl
  rw [List.append_assoc] at hcut
  rw [callee, lastDot?]
  simp only [List.cons_append, List.nil_append] at hcut
  rw [hcut]

theorem callee_subset (head : Text) : (callee head).2 ⊆ head := by
  rw [callee]
  split
  · rename_i before behind hcut
    obtain ⟨rfl, -⟩ := Text.lastCut?_eq_some hcut
    exact fun c hc => List.mem_append_right _ (Text.trim_subset behind hc)
  · exact Text.trim_subset head

theorem call?_eq_none_of_forall (h : ∀ c ∈ s, isNameStart c = false) : call? ctx s = none := by
  rw [Option.eq_none_iff_forall_ne_some]
  intro shape hshape
  obtain ⟨place, -, hshape⟩ := Option.bind_eq_some_iff.mp hshape
  have hsubset := callee_subset (s.take place)
  generalize callee (s.take place) = parts at hshape hsubset
  obtain ⟨receiver, name⟩ := parts
  have hname : isName name = false := by
    cases name with
    | nil => rfl
    | cons c r =>
        have hc : c ∈ s := List.mem_of_mem_take (hsubset List.mem_cons_self)
        rw [isName, h c hc]
        rfl
  simp only [hname, Bool.not_false, Bool.true_or, if_true] at hshape
  cases hshape

theorem literal?_quoted {q : Char} (hq : isQuote q = true) (t : Text) :
    literal? (quoted q t) = some (.literal t) := by
  rw [literal?, unquote?_quoted hq]
  rfl

theorem literal?_eq_none_of_forall (h : ∀ c ∈ s, isQuote c = false) : literal? s = none := by
  cases s with
  | nil => rfl
  | cons c r =>
      rw [literal?, unquote?, h c List.mem_cons_self]
      rfl

theorem isNameStart_of_isSourceChar {c : Char} (h : Arithmetic.isSourceChar c = true) :
    isNameStart c = false := by
  rw [Bool.eq_false_iff, ne_eq, isNameStart_iff]
  simp only [Arithmetic.isSourceChar, Bool.or_eq_true, beq_iff_eq] at h
  rcases h with (((h | h) | rfl) | rfl) | h
  · simp only [Arithmetic.isNumeralChar, Bool.or_eq_true, beq_iff_eq, isDigit_iff] at h
    rcases h with h | rfl
    · omega
    · decide
  · simp only [Arithmetic.isSpace, Bool.or_eq_true, beq_iff_eq] at h
    rcases h with (((rfl | rfl) | rfl) | rfl) | rfl <;> decide
  · decide
  · decide
  · unfold Arithmetic.Operator.between? at h
    split at h
    · decide
    · decide
    · decide
    · decide
    · cases h

theorem isQuote_of_isSourceChar {c : Char} (h : Arithmetic.isSourceChar c = true) :
    isQuote c = false := by
  cases hq : isQuote c with
  | false => rfl
  | true =>
      rcases isQuote_iff.mp hq with rfl | rfl
      · exact absurd h (by decide +kernel)
      · exact absurd h (by decide +kernel)

end CopyFormat.Script.Shape
