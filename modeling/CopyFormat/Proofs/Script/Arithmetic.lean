import CopyFormat.Proofs.Outcome
import CopyFormat.Proofs.Script.Balanced

/-!
The steps of the machine for arithmetic, and what a source that has a value looks like: its
parentheses pair up, it has a digit, and blanks around it do not matter.
-/

namespace CopyFormat.Script.Arithmetic

variable {α : Type} {n : Numbers α}

/-! ### Steps of the machine -/

/-- What the machine does with a lexeme that it can take. -/
inductive Step (n : Numbers α) : Machine α → Lexeme → Machine α → Prop
  | numeral {values : List α} {ops : List Operator} {t : Text} (ht : isNumeral t = true) :
      Step n ⟨values, ops, true⟩ (.numeral t) ⟨n.ofNumeral t :: values, ops, false⟩
  | opening {values : List α} {ops : List Operator} :
      Step n ⟨values, ops, true⟩ (.symbol '(') ⟨values, .group :: ops, true⟩
  | closing {values values' : List α} {ops ops' : List Operator}
      (h : closeGroup n values ops = .ok (values', ops')) :
      Step n ⟨values, ops, false⟩ (.symbol ')') ⟨values', ops', false⟩
  | plus {values : List α} {ops : List Operator} :
      Step n ⟨values, ops, true⟩ (.symbol '+') ⟨values, ops, true⟩
  | minus {values : List α} {ops : List Operator} :
      Step n ⟨values, ops, true⟩ (.symbol '-') ⟨values, .neg :: ops, true⟩
  | between {values values' : List α} {ops ops' : List Operator} {c : Char} {op : Operator}
      (hc : Operator.between? c = some op)
      (h : settle n op.binding values ops = .ok (values', ops')) :
      Step n ⟨values, ops, false⟩ (.symbol c) ⟨values', op :: ops', true⟩

theorem between?_eq_some {c : Char} {op : Operator} (h : Operator.between? c = some op) :
    c = '+' ∧ op = .add ∨ c = '-' ∧ op = .sub ∨ c = '*' ∧ op = .mul ∨ c = '/' ∧ op = .div := by
  unfold Operator.between? at h
  split at h <;> cases h <;> simp

theorem Operator.ne_group_of_between? {c : Char} {op : Operator}
    (hc : Operator.between? c = some op) : op ≠ .group := by
  rcases between?_eq_some hc with ⟨-, rfl⟩ | ⟨-, rfl⟩ | ⟨-, rfl⟩ | ⟨-, rfl⟩ <;> decide

theorem take_eq_ok_iff {m m' : Machine α} {place : Nat} {l : Lexeme} :
    m.take n place l = .ok m' ↔ Step n m l m' := by
  obtain ⟨values, ops, wants⟩ := m
  constructor
  · intro h
    unfold Machine.take at h
    split at h
    · cases wants with
      | false => cases h
      | true =>
          dsimp only [Bool.not_true] at h
          split at h
          · rename_i hfalse
            cases hfalse
          · split at h
            · rename_i ht
              cases h
              exact .numeral ht
            · cases h
    · cases wants with
      | false => cases h
      | true =>
          cases h
          exact .opening
    · cases wants with
      | true => cases h
      | false =>
          obtain ⟨⟨values', ops'⟩, hclose, h⟩ := exists_of_bind_eq_ok h
          cases h
          exact .closing hclose
    · split at h
      · cases h
      · rename_i op hop
        cases wants with
        | false =>
            obtain ⟨⟨values', ops'⟩, hsettle, h⟩ := exists_of_bind_eq_ok h
            cases h
            exact .between hop hsettle
        | true =>
            rcases between?_eq_some hop with ⟨rfl, rfl⟩ | ⟨rfl, rfl⟩ | ⟨rfl, rfl⟩ | ⟨rfl, rfl⟩
            · cases h
              exact .plus
            · cases h
              exact .minus
            · cases h
            · cases h
  · intro h
    cases h with
    | numeral ht => simp [Machine.take, ht]
    | opening => rfl
    | closing h => simp [Machine.take, h, bind, Except.bind]; rfl
    | plus => rfl
    | minus => rfl
    | between hc h =>
        rcases between?_eq_some hc with ⟨rfl, rfl⟩ | ⟨rfl, rfl⟩ | ⟨rfl, rfl⟩ | ⟨rfl, rfl⟩ <;>
          simp [Machine.take, Operator.between?, h]

inductive Steps (n : Numbers α) : Machine α → List Lexeme → Machine α → Prop
  | nil (m : Machine α) : Steps n m [] m
  | cons {m m₁ m' : Machine α} {l : Lexeme} {ls : List Lexeme} (h : Step n m l m₁)
      (hs : Steps n m₁ ls m') : Steps n m (l :: ls) m'

theorem Steps.append {m m₁ m' : Machine α} {ls rs : List Lexeme} (hl : Steps n m ls m₁)
    (hr : Steps n m₁ rs m') : Steps n m (ls ++ rs) m' := by
  induction hl with
  | nil => exact hr
  | cons h _ ih => exact .cons h (ih hr)

/-- Places are only told of in faults. -/
theorem run_eq_ok_iff {m m' : Machine α} {ls : List (Nat × Lexeme)} :
    Machine.run n m ls = .ok m' ↔ Steps n m (ls.map Prod.snd) m' := by
  induction ls generalizing m with
  | nil =>
      constructor
      · intro h
        cases h
        exact .nil _
      · intro h
        cases h
        rfl
  | cons l ls ih =>
      obtain ⟨place, l⟩ := l
      rw [Machine.run, List.map_cons]
      constructor
      · intro h
        obtain ⟨m₁, htake, hrun⟩ := exists_of_bind_eq_ok h
        exact .cons (take_eq_ok_iff.mp htake) (ih.mp hrun)
      · intro h
        cases h with
        | cons hstep hsteps =>
            rw [take_eq_ok_iff.mpr hstep]
            exact ih.mpr hsteps

/-! ### Groups -/

def groups (ops : List Operator) : Nat := ops.count .group

theorem settle_groups {least : Nat} {values values' : List α} {ops ops' : List Operator}
    (h : settle n least values ops = .ok (values', ops')) : groups ops' = groups ops := by
  induction ops generalizing values with
  | nil =>
      cases h
      rfl
  | cons op ops ih =>
      rw [settle] at h
      split at h
      · rename_i hop
        obtain ⟨vs, -, h⟩ := exists_of_bind_eq_ok h
        rw [ih h, groups, groups, List.count_cons_of_ne hop.1]
      · cases h
        rfl

theorem closeGroup_groups {values values' : List α} {ops ops' : List Operator}
    (h : closeGroup n values ops = .ok (values', ops')) : groups ops = groups ops' + 1 := by
  induction ops generalizing values with
  | nil => cases h
  | cons op ops ih =>
      by_cases hop : op = .group
      · subst hop
        cases h
        exact List.count_cons_self
      · rw [closeGroup] at h
        · obtain ⟨vs, -, h⟩ := exists_of_bind_eq_ok h
          rw [← ih h, groups, groups, List.count_cons_of_ne hop]
        · exact hop

theorem finish_groups {values values' : List α} {ops : List Operator}
    (h : finish n values ops = .ok values') : groups ops = 0 := by
  induction ops generalizing values with
  | nil => rfl
  | cons op ops ih =>
      by_cases hop : op = .group
      · subst hop
        cases h
      · rw [finish] at h
        · obtain ⟨vs, -, h⟩ := exists_of_bind_eq_ok h
          rw [groups, List.count_cons_of_ne hop]
          exact ih h
        · exact hop

/-! ### Lexemes -/

/-- The lexemes close `k` more parentheses than they open, none before it is open, and have no
other symbols than operators. -/
inductive Pairs : Nat → List (Nat × Lexeme) → Prop
  | nil : Pairs 0 []
  | numeral {k : Nat} {ls : List (Nat × Lexeme)} (place : Nat) (t : Text) (h : Pairs k ls) :
      Pairs k ((place, .numeral t) :: ls)
  | operator {k : Nat} {ls : List (Nat × Lexeme)} (place : Nat) {c : Char}
      (hc : (Operator.between? c).isSome = true) (h : Pairs k ls) :
      Pairs k ((place, .symbol c) :: ls)
  | opening {k : Nat} {ls : List (Nat × Lexeme)} (place : Nat) (h : Pairs (k + 1) ls) :
      Pairs k ((place, .symbol '(') :: ls)
  | closing {k : Nat} {ls : List (Nat × Lexeme)} (place : Nat) (h : Pairs k ls) :
      Pairs (k + 1) ((place, .symbol ')') :: ls)

theorem take_cases {m m' : Machine α} {place : Nat} {l : Lexeme} (h : m.take n place l = .ok m') :
    (∃ t, l = .numeral t ∧ isNumeral t = true ∧ groups m'.operators = groups m.operators) ∨
      (l = .symbol '(' ∧ groups m'.operators = groups m.operators + 1 ∧
        m'.wantsOperand = m.wantsOperand) ∨
      (l = .symbol ')' ∧ groups m.operators = groups m'.operators + 1 ∧
        m'.wantsOperand = m.wantsOperand) ∨
      ∃ c, l = .symbol c ∧ (Operator.between? c).isSome = true ∧
        groups m'.operators = groups m.operators ∧ m'.wantsOperand = true := by
  cases take_eq_ok_iff.mp h with
  | numeral ht => exact .inl ⟨_, rfl, ht, rfl⟩
  | opening => exact .inr (.inl ⟨rfl, List.count_cons_self, rfl⟩)
  | closing hclose => exact .inr (.inr (.inl ⟨rfl, closeGroup_groups hclose, rfl⟩))
  | plus => exact .inr (.inr (.inr ⟨'+', rfl, rfl, rfl, rfl⟩))
  | minus => exact .inr (.inr (.inr ⟨'-', rfl, rfl, List.count_cons_of_ne (by decide), rfl⟩))
  | @between _ _ _ _ c _ hc hsettle =>
      refine .inr (.inr (.inr ⟨c, rfl, by rw [hc]; rfl, ?_, rfl⟩))
      rw [← settle_groups hsettle]
      exact List.count_cons_of_ne (Operator.ne_group_of_between? hc)

theorem result_groups {m : Machine α} {x : α} (h : m.result n = .ok x) :
    groups m.operators = 0 ∧ m.wantsOperand = false := by
  rw [Machine.result] at h
  split at h
  · cases h
  · rename_i hwants
    obtain ⟨values, hfinish, -⟩ := exists_of_bind_eq_ok h
    exact ⟨finish_groups hfinish, by simpa using hwants⟩

/-- The parentheses that are open when a run begins are closed in the course of it. -/
theorem pairs_of_run {m m' : Machine α} {ls : List (Nat × Lexeme)}
    (h : Machine.run n m ls = .ok m') (hm' : groups m'.operators = 0) :
    Pairs (groups m.operators) ls := by
  induction ls generalizing m with
  | nil =>
      cases h
      rw [hm']
      exact .nil
  | cons l ls ih =>
      obtain ⟨place, l⟩ := l
      obtain ⟨m₁, htake, h⟩ := exists_of_bind_eq_ok h
      have hls := ih h
      rcases take_cases htake with ⟨t, rfl, -, hgroups⟩ | ⟨rfl, hgroups, -⟩ | ⟨rfl, hgroups, -⟩ |
        ⟨c, rfl, hc, hgroups, -⟩
      · rw [hgroups] at hls
        exact .numeral place t hls
      · rw [hgroups] at hls
        exact .opening place hls
      · rw [hgroups]
        exact .closing place hls
      · rw [hgroups] at hls
        exact .operator place hc hls

theorem exists_numeral_of_run {m m' : Machine α} {ls : List (Nat × Lexeme)}
    (h : Machine.run n m ls = .ok m') (hm : m.wantsOperand = true)
    (hm' : m'.wantsOperand = false) :
    ∃ place t, (place, Lexeme.numeral t) ∈ ls ∧ isNumeral t = true := by
  induction ls generalizing m with
  | nil =>
      cases h
      rw [hm] at hm'
      cases hm'
  | cons l ls ih =>
      obtain ⟨place, l⟩ := l
      obtain ⟨m₁, htake, h⟩ := exists_of_bind_eq_ok h
      have hrest : m₁.wantsOperand = true →
          ∃ place' t, (place', Lexeme.numeral t) ∈ (place, l) :: ls ∧ isNumeral t = true := by
        intro hm₁
        obtain ⟨place', t, hmem, ht⟩ := ih h hm₁
        exact ⟨place', t, List.mem_cons_of_mem _ hmem, ht⟩
      rcases take_cases htake with ⟨t, rfl, ht, -⟩ | ⟨rfl, -, hwants⟩ | ⟨rfl, -, hwants⟩ |
        ⟨c, rfl, -, -, hwants⟩
      · exact ⟨place, t, List.mem_cons_self, ht⟩
      · exact hrest (hwants.trans hm)
      · exact hrest (hwants.trans hm)
      · exact hrest hwants

/-! ### Characters -/

def isSourceChar (c : Char) : Bool :=
  isNumeralChar c || isSpace c || c == '(' || c == ')' || (Operator.between? c).isSome

theorem lexemes_space {c : Char} (hc : isSpace c = true) (place : Nat) (s : Text) :
    lexemes place (c :: s) = lexemes (place + 1) s := by
  rw [lexemes, if_pos hc]

theorem lexemes_symbol {c : Char} (hspace : isSpace c = false) (hnumeral : isNumeralChar c = false)
    (place : Nat) (s : Text) :
    lexemes place (c :: s) = (place, .symbol c) :: lexemes (place + 1) s := by
  simp [lexemes, hspace, hnumeral]

theorem lexemes_numeral {c : Char} (hspace : isSpace c = false) (hnumeral : isNumeralChar c = true)
    (place : Nat) (s : Text) :
    (∃ place' t ls, lexemes (place + 1) s = (place', .numeral t) :: ls ∧
        lexemes place (c :: s) = (place, .numeral (c :: t)) :: ls) ∨
      lexemes place (c :: s) = (place, .numeral [c]) :: lexemes (place + 1) s := by
  rw [lexemes]
  simp only [hspace, hnumeral, Bool.false_eq_true, if_false, if_true]
  split
  · rename_i place' t ls _ hls
    exact .inl ⟨place', t, ls, hls, rfl⟩
  · exact .inr rfl

theorem isSpace_or_isNumeralChar_or (c : Char) :
    isSpace c = true ∨ isSpace c = false ∧ isNumeralChar c = true ∨
      isSpace c = false ∧ isNumeralChar c = false := by
  cases isSpace c <;> cases isNumeralChar c <;> simp

theorem Pairs.of_numeral {k place : Nat} {t : Text} {ls : List (Nat × Lexeme)}
    (h : Pairs k ((place, .numeral t) :: ls)) : Pairs k ls := by
  cases h
  assumption

theorem Pairs.cases_cons {k place : Nat} {c : Char} {s : Text}
    (h : Pairs k (lexemes place (c :: s))) :
    (isSpace c = true ∨ isNumeralChar c = true ∨ (Operator.between? c).isSome = true) ∧
        Pairs k (lexemes (place + 1) s) ∨
      c = '(' ∧ Pairs (k + 1) (lexemes (place + 1) s) ∨
      c = ')' ∧ ∃ k', k = k' + 1 ∧ Pairs k' (lexemes (place + 1) s) := by
  rcases isSpace_or_isNumeralChar_or c with hspace | ⟨hspace, hnumeral⟩ | ⟨hspace, hnumeral⟩
  · rw [lexemes_space hspace] at h
    exact .inl ⟨.inl hspace, h⟩
  · refine .inl ⟨.inr (.inl hnumeral), ?_⟩
    rcases lexemes_numeral hspace hnumeral place s with ⟨place', t, ls, hls, hc⟩ | hc
    · rw [hc] at h
      rw [hls]
      exact .numeral place' t h.of_numeral
    · rw [hc] at h
      exact h.of_numeral
  · rw [lexemes_symbol hspace hnumeral] at h
    cases h with
    | operator _ hc h => exact .inl ⟨.inr (.inr hc), h⟩
    | opening _ h => exact .inr (.inl ⟨rfl, h⟩)
    | closing _ h => exact .inr (.inr ⟨rfl, _, rfl, h⟩)

theorem Pairs.isSourceChar {k place : Nat} {s : Text} (h : Pairs k (lexemes place s)) :
    ∀ c ∈ s, isSourceChar c = true := by
  induction s generalizing k place with
  | nil => simp
  | cons c s ih =>
      rcases h.cases_cons with ⟨hc, hs⟩ | ⟨rfl, hs⟩ | ⟨rfl, k', -, hs⟩
      · refine List.forall_mem_cons.mpr ⟨?_, ih hs⟩
        rcases hc with hc | hc | hc <;> simp [Arithmetic.isSourceChar, hc]
      · exact List.forall_mem_cons.mpr ⟨by decide, ih hs⟩
      · exact List.forall_mem_cons.mpr ⟨by decide, ih hs⟩

theorem isPlain_of_part {c : Char}
    (hc : isSpace c = true ∨ isNumeralChar c = true ∨ (Operator.between? c).isSome = true) :
    isPlain c = true := by
  rcases hc with hc | hc | hc
  · exact isPlain_of_class (k := isSpace) (by decide) hc
  · exact isPlain_of_class (k := isNumeralChar) (by decide) hc
  · exact isPlain_of_class (k := fun c => (Operator.between? c).isSome) (by decide) hc

theorem Pairs.balances {p : Char → Prop} {k place : Nat} {s : Text}
    (hp : ∀ c, Arithmetic.isSourceChar c = true → p c) (h : Pairs k (lexemes place s)) :
    Balances p k s := by
  induction s generalizing k place with
  | nil =>
      cases h
      exact .nil
  | cons c s ih =>
      have hsource := h.isSourceChar c List.mem_cons_self
      rcases h.cases_cons with ⟨hc, hs⟩ | ⟨rfl, hs⟩ | ⟨rfl, k', rfl, hs⟩
      · exact .plain (isPlain_of_part hc) (fun _ => hp c hsource) (ih hs)
      · exact .opening (ih hs)
      · exact .closing (ih hs)

theorem subset_of_mem_lexemes {place place' : Nat} {s t : Text}
    (h : (place', Lexeme.numeral t) ∈ lexemes place s) : t ⊆ s := by
  induction s generalizing place place' t with
  | nil => cases h
  | cons c s ih =>
      have hrest : ∀ {t'}, (place', Lexeme.numeral t') ∈ lexemes (place + 1) s → t' ⊆ c :: s :=
        fun h => List.subset_cons_of_subset c (ih h)
      rcases isSpace_or_isNumeralChar_or c with hspace | ⟨hspace, hnumeral⟩ | ⟨hspace, hnumeral⟩
      · rw [lexemes_space hspace] at h
        exact hrest h
      · rcases lexemes_numeral hspace hnumeral place s with ⟨place₁, t₁, ls, hls, hc⟩ | hc
        · have hmem : (place₁, Lexeme.numeral t₁) ∈ lexemes (place + 1) s := by
            rw [hls]
            exact List.mem_cons_self
          have ht₁ := ih hmem
          rw [hc] at h
          rcases List.mem_cons.mp h with h | h
          · cases h
            exact List.cons_subset_cons c ht₁
          · exact hrest (by rw [hls]; exact List.mem_cons_of_mem _ h)
        · rw [hc] at h
          rcases List.mem_cons.mp h with h | h
          · cases h
            exact List.cons_subset_cons c (List.nil_subset s)
          · exact hrest h
      · rw [lexemes_symbol hspace hnumeral] at h
        rcases List.mem_cons.mp h with h | h
        · cases h
        · exact hrest h

/-! ### Sources that have a value -/

variable {s : Text} {x : α}

theorem pairs_of_eval (h : eval n s = .ok x) : Pairs 0 (lexemes 0 s) := by
  obtain ⟨m, hrun, hresult⟩ := exists_of_bind_eq_ok h
  exact pairs_of_run hrun (result_groups hresult).1

theorem isSourceChar_of_eval (h : eval n s = .ok x) : ∀ c ∈ s, isSourceChar c = true :=
  (pairs_of_eval h).isSourceChar

theorem balances_of_eval {p : Char → Prop} (hp : ∀ c, isSourceChar c = true → p c)
    (h : eval n s = .ok x) : Balances p 0 s :=
  (pairs_of_eval h).balances hp

theorem isArithmetic_of_eval (h : eval n s = .ok x) : isArithmetic s = true := by
  have hchars := isSourceChar_of_eval h
  obtain ⟨m, hrun, hresult⟩ := exists_of_bind_eq_ok h
  obtain ⟨place, t, hmem, ht⟩ := exists_numeral_of_run hrun rfl (result_groups hresult).2
  obtain ⟨c, hc, hdigit⟩ := List.any_eq_true.mp (Bool.and_eq_true_iff.mp ht).1
  rw [isArithmetic, Bool.and_eq_true]
  exact ⟨List.any_eq_true.mpr ⟨c, subset_of_mem_lexemes hmem hc, hdigit⟩,
    List.all_eq_true.mpr hchars⟩

/-! ### Blanks around a source -/

theorem run_of_map_snd_eq {m m' : Machine α} {ls ls' : List (Nat × Lexeme)}
    (hls : ls.map Prod.snd = ls'.map Prod.snd) (h : Machine.run n m ls = .ok m') :
    Machine.run n m ls' = .ok m' := by
  rw [run_eq_ok_iff] at h ⊢
  rwa [← hls]

theorem lexemes_map_snd (place place' : Nat) (s : Text) :
    (lexemes place s).map Prod.snd = (lexemes place' s).map Prod.snd := by
  induction s generalizing place place' with
  | nil => rfl
  | cons c s ih =>
      have hs := ih (place + 1) (place' + 1)
      rcases isSpace_or_isNumeralChar_or c with hspace | ⟨hspace, hnumeral⟩ | ⟨hspace, hnumeral⟩
      · rw [lexemes_space hspace, lexemes_space hspace, hs]
      · rw [lexemes, lexemes]
        simp only [hspace, hnumeral, Bool.false_eq_true, if_false, if_true]
        cases hl : lexemes (place + 1) s with
        | nil =>
            rw [hl, List.map_nil, eq_comm, List.map_eq_nil_iff] at hs
            rw [hs]
            cases s.head?.any isNumeralChar <;> rfl
        | cons l ls =>
            obtain ⟨q, l⟩ := l
            rw [hl] at hs
            obtain ⟨⟨q', l'⟩, ls', hl', rfl, hls⟩ := List.map_eq_cons_iff.mp hs.symm
            rw [hl']
            cases s.head?.any isNumeralChar <;> cases l' <;> simp [hls]
      · rw [lexemes_symbol hspace hnumeral, lexemes_symbol hspace hnumeral, List.map_cons,
          List.map_cons, hs]

theorem lexemes_space_append {u : Text} (hu : ∀ c ∈ u, isSpace c = true) (place : Nat) (s : Text) :
    lexemes place (u ++ s) = lexemes (place + u.length) s := by
  induction u generalizing place with
  | nil => rfl
  | cons c u ih =>
      rw [List.cons_append, lexemes_space (hu c List.mem_cons_self),
        ih fun d hd => hu d (List.mem_cons_of_mem c hd), List.length_cons, Nat.add_right_comm,
        Nat.add_assoc]

theorem lexemes_append_space {u : Text} (hu : ∀ c ∈ u, isSpace c = true) (place : Nat) (s : Text) :
    lexemes place (s ++ u) = lexemes place s := by
  induction s generalizing place with
  | nil => rw [List.nil_append, ← List.append_nil u, lexemes_space_append hu]; rfl
  | cons c s ih =>
      have hhead : (s ++ u).head?.any isNumeralChar = s.head?.any isNumeralChar := by
        cases s with
        | cons d s => rfl
        | nil =>
            cases u with
            | nil => rfl
            | cons d u =>
                have hd := hu d List.mem_cons_self
                simp only [isSpace, Bool.or_eq_true, beq_iff_eq] at hd
                rcases hd with (((rfl | rfl) | rfl) | rfl) | rfl <;> rfl
      rw [List.cons_append, lexemes, lexemes, ih, hhead]

theorem isSpace_of_isBlank {c : Char} (hblank : isBlank c = true) (hc : isSourceChar c = true) :
    isSpace c = true := by
  simp only [isSourceChar, Bool.or_eq_true, beq_iff_eq] at hc
  rcases hc with (((hc | hc) | rfl) | rfl) | hc
  · simp only [isNumeralChar, Bool.or_eq_true, beq_iff_eq, isDigit_iff] at hc
    rw [isBlank_iff] at hblank
    rcases hc with hc | rfl
    · omega
    · simp at hblank
  · exact hc
  · cases hblank
  · cases hblank
  · unfold Operator.between? at hc
    split at hc
    · cases hblank
    · cases hblank
    · cases hblank
    · cases hblank
    · cases hc

theorem eval_trim (h : eval n s = .ok x) : eval n s.trim = .ok x := by
  have hchars := isSourceChar_of_eval h
  obtain ⟨u, v, hu, hv, hs⟩ := s.exists_trim
  have hspace : ∀ {w : Text}, w.isBlankText = true → w ⊆ s → ∀ c ∈ w, isSpace c = true :=
    fun hw hsub c hc => isSpace_of_isBlank (Text.isBlankText_iff.mp hw c hc) (hchars c (hsub hc))
  have hus : ∀ c ∈ u, isSpace c = true := hspace hu (by rw [hs]; simp)
  have hvs : ∀ c ∈ v, isSpace c = true := hspace hv (by rw [hs]; simp)
  have hlexemes : lexemes 0 s = lexemes (0 + u.length) s.trim := by
    conv_lhs => rw [hs, lexemes_space_append hus, lexemes_append_space hvs]
  obtain ⟨m, hrun, hresult⟩ := exists_of_bind_eq_ok h
  rw [hlexemes] at hrun
  rw [eval, run_of_map_snd_eq (lexemes_map_snd _ 0 s.trim) hrun]
  exact hresult

end CopyFormat.Script.Arithmetic
