import CopyFormat.Proofs.Script.Arithmetic

/-!
The grammar of arithmetic, and that the machine accepts just the texts that derive from it.

The state of the machine tells which trees have been built and which operators wait for the rest
of their operands (`Follows`). Each step keeps this, so a run that gives a result has read a sum.
In the other direction, the machine computes each expression as if the operators that already wait
were not there, up to what the next one settles (`Computes`).
-/

namespace CopyFormat.Script.Arithmetic

variable {α : Type} {n : Numbers α}

/-! ### Trees -/

inductive Tree
  | numeral (t : Text)
  | neg (e : Tree)
  | add (l r : Tree)
  | sub (l r : Tree)
  | mul (l r : Tree)
  | div (l r : Tree)
  deriving DecidableEq, Repr

/-- The value of a tree, whatever numbers are and however they are calculated with. -/
def Tree.value (n : Numbers α) : Tree → α
  | numeral t => n.ofNumeral t
  | neg e => n.neg (e.value n)
  | add l r => n.add (l.value n) (r.value n)
  | sub l r => n.sub (l.value n) (r.value n)
  | mul l r => n.mul (l.value n) (r.value n)
  | div l r => n.div (l.value n) (r.value n)

/-! ### The grammar -/

/-- The kinds of expressions: sums of products, products of factors, and factors, which are
primary expressions with signs before them. -/
inductive Level
  | sum
  | product
  | factor
  | primary
  deriving DecidableEq, Repr

/-- The rows of lexemes that are expressions of a kind, with their trees. Sums and products group
to the left. -/
inductive Derives : Level → List Lexeme → Tree → Prop
  | number {t : Text} (hdigit : t.any Char.isDigit = true) (hpoint : t.count '.' ≤ 1) :
      Derives .primary [.numeral t] (.numeral t)
  | group {ls : List Lexeme} {e : Tree} (h : Derives .sum ls e) :
      Derives .primary (.symbol '(' :: (ls ++ [.symbol ')'])) e
  | unsigned {ls : List Lexeme} {e : Tree} (h : Derives .primary ls e) : Derives .factor ls e
  | plus {ls : List Lexeme} {e : Tree} (h : Derives .factor ls e) :
      Derives .factor (.symbol '+' :: ls) e
  | minus {ls : List Lexeme} {e : Tree} (h : Derives .factor ls e) :
      Derives .factor (.symbol '-' :: ls) (.neg e)
  | factor {ls : List Lexeme} {e : Tree} (h : Derives .factor ls e) : Derives .product ls e
  | mul {ls rs : List Lexeme} {l r : Tree} (hl : Derives .product ls l)
      (hr : Derives .factor rs r) : Derives .product (ls ++ .symbol '*' :: rs) (.mul l r)
  | div {ls rs : List Lexeme} {l r : Tree} (hl : Derives .product ls l)
      (hr : Derives .factor rs r) : Derives .product (ls ++ .symbol '/' :: rs) (.div l r)
  | product {ls : List Lexeme} {e : Tree} (h : Derives .product ls e) : Derives .sum ls e
  | add {ls rs : List Lexeme} {l r : Tree} (hl : Derives .sum ls l)
      (hr : Derives .product rs r) : Derives .sum (ls ++ .symbol '+' :: rs) (.add l r)
  | sub {ls rs : List Lexeme} {l r : Tree} (hl : Derives .sum ls l)
      (hr : Derives .product rs r) : Derives .sum (ls ++ .symbol '-' :: rs) (.sub l r)

/-- The texts that spell a row of lexemes. Blanks may stand before, between and behind them, and
a numeral holds all the digits and points that stand together. -/
inductive Spells : List Lexeme → Text → Prop
  | nil : Spells [] []
  | space {c : Char} {s : Text} {ls : List Lexeme} (hc : isSpace c = true) (h : Spells ls s) :
      Spells ls (c :: s)
  | symbol {c : Char} {s : Text} {ls : List Lexeme} (hspace : isSpace c = false)
      (hnumeral : isNumeralChar c = false) (h : Spells ls s) : Spells (.symbol c :: ls) (c :: s)
  | numeral {t s : Text} {ls : List Lexeme} (hne : t ≠ [])
      (ht : ∀ c ∈ t, isNumeralChar c = true) (hs : ∀ c, s.head? = some c → isNumeralChar c = false)
      (h : Spells ls s) : Spells (.numeral t :: ls) (t ++ s)

/-! ### Spelling -/

theorem isNumeralChar_of_isSpace {c : Char} (h : isSpace c = true) : isNumeralChar c = false := by
  simp only [isSpace, Bool.or_eq_true, beq_iff_eq] at h
  rcases h with (((rfl | rfl) | rfl) | rfl) | rfl <;> decide

theorem isSpace_of_isNumeralChar {c : Char} (h : isNumeralChar c = true) : isSpace c = false := by
  cases hspace : isSpace c with
  | false => rfl
  | true =>
      rw [isNumeralChar_of_isSpace hspace] at h
      cases h

theorem lexemes_numeral_end {c : Char} {s : Text} (hc : isNumeralChar c = true)
    (hs : ∀ d, s.head? = some d → isNumeralChar d = false) (place : Nat) :
    lexemes place (c :: s) = (place, .numeral [c]) :: lexemes (place + 1) s := by
  have hspace : isSpace c = false := isSpace_of_isNumeralChar hc
  have hhead : s.head?.any isNumeralChar = false := by
    cases s with
    | nil => rfl
    | cons d s => exact hs d rfl
  rw [lexemes]
  simp [hspace, hc, hhead]

theorem lexemes_numeral_cons {c d : Char} {s t : Text} {ls : List Lexeme}
    (hc : isNumeralChar c = true) (hd : isNumeralChar d = true) {place : Nat}
    (h : (lexemes (place + 1) (d :: s)).map Prod.snd = .numeral t :: ls) :
    (lexemes place (c :: d :: s)).map Prod.snd = .numeral (c :: t) :: ls := by
  have hspace : isSpace c = false := isSpace_of_isNumeralChar hc
  obtain ⟨⟨place', l⟩, ls', hls, hl, hrest⟩ := List.map_eq_cons_iff.mp h
  dsimp only at hl
  subst hl
  rw [lexemes, hls]
  simp [hspace, hc, hd, hrest]

theorem Spells.numeral_cons {c d : Char} {s : Text} {ls : List Lexeme}
    (hc : isNumeralChar c = true) (hd : isNumeralChar d = true) (h : Spells ls (d :: s)) :
    ∃ t ls', ls = .numeral t :: ls' ∧ Spells (.numeral (c :: t) :: ls') (c :: d :: s) := by
  generalize hr : d :: s = r at h
  cases h with
  | nil => cases hr
  | space hspace h =>
      cases hr
      rw [isNumeralChar_of_isSpace hspace] at hd
      cases hd
  | symbol hspace hnumeral h =>
      cases hr
      rw [hnumeral] at hd
      cases hd
  | numeral hne ht hs h =>
      exact ⟨_, _, rfl, .numeral (List.cons_ne_nil c _) (List.forall_mem_cons.mpr ⟨hc, ht⟩) hs h⟩

theorem spells_lexemes (place : Nat) (s : Text) : Spells ((lexemes place s).map Prod.snd) s := by
  induction s generalizing place with
  | nil => exact .nil
  | cons c s ih =>
      have hs := ih (place + 1)
      rcases isSpace_or_isNumeralChar_or c with hspace | ⟨hspace, hnumeral⟩ | ⟨hspace, hnumeral⟩
      · rw [lexemes_space hspace]
        exact .space hspace hs
      · by_cases hhead : ∃ d r, s = d :: r ∧ isNumeralChar d = true
        · obtain ⟨d, r, rfl, hd⟩ := hhead
          obtain ⟨t, ls, hls, h⟩ := hs.numeral_cons hnumeral hd
          rw [lexemes_numeral_cons hnumeral hd hls]
          exact h
        · have hend : ∀ d, s.head? = some d → isNumeralChar d = false := by
            intro d hd
            obtain ⟨r, rfl⟩ := List.head?_eq_some_iff.mp hd
            rw [Bool.eq_false_iff]
            exact fun hd => hhead ⟨d, r, rfl, hd⟩
          rw [lexemes_numeral_end hnumeral hend]
          exact .numeral (List.cons_ne_nil c []) (List.forall_mem_singleton.mpr hnumeral) hend hs
      · rw [lexemes_symbol hspace hnumeral]
        exact .symbol hspace hnumeral hs

theorem Spells.lexemes_eq {ls : List Lexeme} {s : Text} (h : Spells ls s) (place : Nat) :
    (lexemes place s).map Prod.snd = ls := by
  induction h generalizing place with
  | nil => rfl
  | space hc _ ih => rw [lexemes_space hc, ih]
  | symbol hspace hnumeral _ ih => rw [lexemes_symbol hspace hnumeral, List.map_cons, ih]
  | @numeral t s ls hne ht hs _ ih =>
      induction t generalizing place with
      | nil => exact absurd rfl hne
      | cons c t iht =>
          obtain ⟨hc, ht⟩ := List.forall_mem_cons.mp ht
          cases t with
          | nil => rw [List.singleton_append, lexemes_numeral_end hc hs, List.map_cons, ih]
          | cons d t =>
              have hd := ht d List.mem_cons_self
              exact lexemes_numeral_cons hc hd (iht (List.cons_ne_nil d t) ht (place + 1))

/-! ### Kinds of expressions and operators -/

/-- How tightly the parts of an expression of a kind are bound at least. -/
def Level.binding : Level → Nat
  | .sum => 1
  | .product => 2
  | .factor => 3
  | .primary => 4

def Operator.level : Operator → Level
  | .add | .sub => .sum
  | .mul | .div => .product
  | .neg => .factor
  | .group => .primary

/-- The kind of expression that an operator takes as its last operand. -/
def Operator.operand : Operator → Level
  | .group => .sum
  | .add | .sub => .product
  | .mul | .div | .neg => .factor

/-- Whether an expression of a kind can be what the innermost waiting operator takes. -/
def Level.Fits (k : Level) (ops : List Operator) : Prop :=
  ∀ op, ops.head? = some op → op.operand.binding ≤ k.binding

theorem Level.fits_nil (k : Level) : k.Fits [] := nofun

theorem Level.fits_cons {k : Level} {op : Operator} {ops : List Operator} :
    k.Fits (op :: ops) ↔ op.operand.binding ≤ k.binding := by
  simp [Fits]

theorem Level.Fits.mono {k k' : Level} {ops : List Operator} (h : k.Fits ops)
    (hle : k.binding ≤ k'.binding) : k'.Fits ops :=
  fun op hop => (h op hop).trans hle

theorem Level.fits_of_le {k : Level} (hk : 3 ≤ k.binding) (ops : List Operator) : k.Fits ops := by
  intro op _
  have hop : op.operand.binding ≤ 3 := by cases op <;> decide
  exact hop.trans hk

theorem Derives.weaken {k k' : Level} {ls : List Lexeme} {e : Tree} (h : Derives k ls e)
    (hle : k'.binding ≤ k.binding) : Derives k' ls e := by
  have hfactor : Derives .primary ls e → Derives .factor ls e := .unsigned
  have hproduct : Derives .factor ls e → Derives .product ls e := .factor
  have hsum : Derives .product ls e → Derives .sum ls e := .product
  cases k <;> cases k' <;> simp_all [Level.binding]

theorem Derives.plus_cons {k : Level} {ls : List Lexeme} {e : Tree} (h : Derives k ls e)
    (hk : k ≠ .primary) : Derives k (.symbol '+' :: ls) e := by
  induction h with
  | number _ _ => exact absurd rfl hk
  | group _ _ => exact absurd rfl hk
  | unsigned h _ => exact .plus (.unsigned h)
  | plus h _ => exact .plus (.plus h)
  | minus h _ => exact .plus (.minus h)
  | factor _ ih => exact .factor (ih nofun)
  | mul _ hr ih _ => exact .mul (ih nofun) hr
  | div _ hr ih _ => exact .div (ih nofun) hr
  | product _ ih => exact .product (ih nofun)
  | add _ hr ih _ => exact .add (ih nofun) hr
  | sub _ hr ih _ => exact .sub (ih nofun) hr

theorem Derives.exists_between {c : Char} {op : Operator} {ls rs : List Lexeme} {l r : Tree}
    (hc : Operator.between? c = some op) (hl : Derives op.level ls l)
    (hr : Derives op.operand rs r) :
    ∃ e, Derives op.level (ls ++ .symbol c :: rs) e ∧
      ∀ values : List α, op.apply n (r.value n :: l.value n :: values) =
        .ok (e.value n :: values) := by
  rcases between?_eq_some hc with ⟨rfl, rfl⟩ | ⟨rfl, rfl⟩ | ⟨rfl, rfl⟩ | ⟨rfl, rfl⟩
  · exact ⟨.add l r, .add hl hr, fun _ => rfl⟩
  · exact ⟨.sub l r, .sub hl hr, fun _ => rfl⟩
  · exact ⟨.mul l r, .mul hl hr, fun _ => rfl⟩
  · exact ⟨.div l r, .div hl hr, fun _ => rfl⟩

theorem Operator.level_of_between? {c : Char} {op : Operator}
    (hc : Operator.between? c = some op) : op.level = .sum ∨ op.level = .product := by
  rcases between?_eq_some hc with ⟨-, rfl⟩ | ⟨-, rfl⟩ | ⟨-, rfl⟩ | ⟨-, rfl⟩ <;> decide

theorem Operator.binding_eq_level {op : Operator} (hop : op ≠ .group) :
    op.binding = op.level.binding := by
  cases op with
  | group => exact absurd rfl hop
  | _ => rfl

theorem Operator.level_le_operand {op : Operator} (hop : op ≠ .group) :
    op.level.binding ≤ op.operand.binding := by
  cases op with
  | group => exact absurd rfl hop
  | _ => decide

/-- An operator waits on when what comes is no tighter than its operand may be. -/
theorem Operator.operand_le_iff {op : Operator} {k : Level} (hk : k = .sum ∨ k = .product) :
    op.operand.binding ≤ k.binding ↔ ¬(op ≠ .group ∧ k.binding ≤ op.binding) := by
  rcases hk with rfl | rfl <;> cases op <;> decide

theorem closeGroup_eq_ok_iff {values values' : List α} {ops ops' : List Operator} :
    closeGroup n values ops = .ok (values', ops') ↔
      settle n 1 values ops = .ok (values', .group :: ops') := by
  induction ops generalizing values with
  | nil => simp [closeGroup, settle]
  | cons op ops ih =>
      cases op with
      | group => simp [closeGroup, settle]
      | _ =>
        rw [closeGroup, settle, if_pos (by decide)]
        · cases h : Operator.apply n _ values with
          | error f => simp [bind, Except.bind]
          | ok vs => exact ih
        · intro h
          cases h

theorem finish_eq_ok_iff {values values' : List α} {ops : List Operator} :
    finish n values ops = .ok values' ↔ settle n 1 values ops = .ok (values', []) := by
  induction ops generalizing values with
  | nil => simp [finish, settle]
  | cons op ops ih =>
      cases op with
      | group => simp [finish, settle]
      | _ =>
        rw [finish, settle, if_pos (by decide)]
        · cases h : Operator.apply n _ values with
          | error f => simp [bind, Except.bind]
          | ok vs => exact ih
        · intro h
          cases h

theorem settle_of_apply {op : Operator} {ops : List Operator} {values values' : List α}
    {least : Nat} (hop : op ≠ .group) (hle : least ≤ op.binding)
    (h : op.apply n values = .ok values') :
    settle n least values (op :: ops) = settle n least values' ops := by
  rw [settle, if_pos ⟨hop, hle⟩, h]
  rfl

theorem settle_of_fits {k : Level} {ops : List Operator} (hk : k = .sum ∨ k = .product)
    (h : k.Fits ops) (values : List α) : settle n k.binding values ops = .ok (values, ops) := by
  cases ops with
  | nil => rfl
  | cons op ops =>
      rw [Level.fits_cons, Operator.operand_le_iff hk] at h
      rw [settle, if_neg h]

/-! ### From derivations to runs -/

/-- The machine takes the lexemes when it wants an operand, and its state then comes to the same
as that with the value on top, as soon as what waits is applied. -/
def Computes (n : Numbers α) (k : Level) (ls : List Lexeme) (x : α) : Prop :=
  ∀ (values : List α) (ops : List Operator), k.Fits ops →
    ∃ values' ops', Steps n ⟨values, ops, true⟩ ls ⟨values', ops', false⟩ ∧
      ∀ least, least ≤ k.binding → settle n least values' ops' = settle n least (x :: values) ops

theorem Computes.weaken {k k' : Level} {ls : List Lexeme} {x : α} (h : Computes n k ls x)
    (hle : k'.binding ≤ k.binding) : Computes n k' ls x := by
  intro values ops hops
  obtain ⟨values', ops', hsteps, hsettle⟩ := h values ops (hops.mono hle)
  exact ⟨values', ops', hsteps, fun least hleast => hsettle least (hleast.trans hle)⟩

theorem Computes.between {c : Char} {op : Operator} {ls rs : List Lexeme} {x y z : α}
    (hc : Operator.between? c = some op) (hl : Computes n op.level ls x)
    (hr : Computes n op.operand rs y)
    (hz : ∀ values, op.apply n (y :: x :: values) = .ok (z :: values)) :
    Computes n op.level (ls ++ .symbol c :: rs) z := by
  have hgroup := Operator.ne_group_of_between? hc
  have hbinding := Operator.binding_eq_level hgroup
  have hoperand := Operator.level_le_operand hgroup
  intro values ops hops
  obtain ⟨values₁, ops₁, hsteps₁, hsettle₁⟩ := hl values ops hops
  have hsettled : settle n op.binding values₁ ops₁ = .ok (x :: values, ops) := by
    rw [hsettle₁ op.binding hbinding.le, hbinding]
    exact settle_of_fits (Operator.level_of_between? hc) hops _
  obtain ⟨values₂, ops₂, hsteps₂, hsettle₂⟩ :=
    hr (x :: values) (op :: ops) (Level.fits_cons.mpr le_rfl)
  refine ⟨values₂, ops₂, hsteps₁.append (.cons (.between hc hsettled) hsteps₂), ?_⟩
  intro least hleast
  rw [hsettle₂ least (hleast.trans hoperand),
    settle_of_apply hgroup (hleast.trans hbinding.ge) (hz values)]

/-- The machine computes the value of what derives from the grammar. -/
theorem Derives.computes {k : Level} {ls : List Lexeme} {e : Tree} (h : Derives k ls e) :
    Computes n k ls (e.value n) := by
  induction h with
  | @number t hdigit hpoint =>
      intro values ops _
      have ht : isNumeral t = true := by
        rw [isNumeral, hdigit, decide_eq_true hpoint]
        rfl
      exact ⟨_, _, .cons (.numeral ht) (.nil _), fun _ _ => rfl⟩
  | @group ls e _ ih =>
      intro values ops _
      obtain ⟨values', ops', hsteps, hsettle⟩ :=
        ih values (.group :: ops) (Level.fits_cons.mpr le_rfl)
      have hclose : closeGroup n values' ops' = .ok (e.value n :: values, ops) := by
        rw [closeGroup_eq_ok_iff, hsettle 1 le_rfl]
        rfl
      exact ⟨_, _, .cons .opening (hsteps.append (.cons (.closing hclose) (.nil _))),
        fun _ _ => rfl⟩
  | unsigned _ ih => exact ih.weaken (by decide)
  | plus _ ih =>
      intro values ops hops
      obtain ⟨values', ops', hsteps, hsettle⟩ := ih values ops hops
      exact ⟨values', ops', .cons .plus hsteps, hsettle⟩
  | @minus ls e _ ih =>
      intro values ops _
      obtain ⟨values', ops', hsteps, hsettle⟩ :=
        ih values (.neg :: ops) (Level.fits_of_le (by decide) _)
      refine ⟨values', ops', .cons .minus hsteps, fun least hleast => ?_⟩
      rw [hsettle least hleast, settle_of_apply (by decide) hleast]
      rfl
  | factor _ ih => exact ih.weaken (by decide)
  | mul _ _ ihl ihr =>
      exact Computes.between (show Operator.between? '*' = some .mul from rfl) ihl ihr fun _ => rfl
  | div _ _ ihl ihr =>
      exact Computes.between (show Operator.between? '/' = some .div from rfl) ihl ihr fun _ => rfl
  | product _ ih => exact ih.weaken (by decide)
  | add _ _ ihl ihr =>
      exact Computes.between (show Operator.between? '+' = some .add from rfl) ihl ihr fun _ => rfl
  | sub _ _ ihl ihr =>
      exact Computes.between (show Operator.between? '-' = some .sub from rfl) ihl ihr fun _ => rfl

theorem result_eq_ok_iff {m : Machine α} {x : α} :
    m.result n = .ok x ↔ m.wantsOperand = false ∧ finish n m.values m.operators = .ok [x] := by
  rw [Machine.result]
  cases m.wantsOperand with
  | true => simp
  | false =>
      cases finish n m.values m.operators with
      | error f => simp [bind, Except.bind]
      | ok values =>
          rcases values with _ | ⟨y, _ | ⟨z, values⟩⟩ <;> simp [bind, Except.bind]

/-! ### From runs to derivations -/

/-- The lexemes that have been taken when an operand must come next. The trees are those on the
left of operators, and each operator that waits has its lexeme and what stands before it. -/
inductive Awaits : List Lexeme → List Tree → List Operator → Prop
  | start : Awaits [] [] []
  | plus {ls : List Lexeme} {es : List Tree} {ops : List Operator} (h : Awaits ls es ops) :
      Awaits (ls ++ [.symbol '+']) es ops
  | minus {ls : List Lexeme} {es : List Tree} {ops : List Operator} (h : Awaits ls es ops) :
      Awaits (ls ++ [.symbol '-']) es (.neg :: ops)
  | opening {ls : List Lexeme} {es : List Tree} {ops : List Operator} (h : Awaits ls es ops) :
      Awaits (ls ++ [.symbol '(']) es (.group :: ops)
  | between {ls ds : List Lexeme} {e : Tree} {es : List Tree} {ops : List Operator} {c : Char}
      {op : Operator} (h : Awaits ls es ops) (hc : Operator.between? c = some op)
      (he : Derives op.level ds e) (hfits : op.level.Fits ops) :
      Awaits (ls ++ ds ++ [.symbol c]) (e :: es) (op :: ops)

/-- The lexemes that have been taken end with an expression of a kind, which the innermost
waiting operator can take and whose tree is the first one. -/
inductive Ends (k : Level) : List Lexeme → List Tree → List Operator → Prop
  | mk {ls ds : List Lexeme} {e : Tree} {es : List Tree} {ops : List Operator}
      (h : Awaits ls es ops) (he : Derives k ds e) (hfits : k.Fits ops) :
      Ends k (ls ++ ds) (e :: es) ops

theorem Awaits.apply {ls ds : List Lexeme} {es : List Tree} {e : Tree} {op : Operator}
    {ops : List Operator} (h : Awaits ls es (op :: ops)) (hop : op ≠ .group)
    (he : Derives op.operand ds e) :
    ∃ es', op.apply n ((e :: es).map (Tree.value n)) = .ok (es'.map (Tree.value n)) ∧
      Ends op.level (ls ++ ds) es' ops := by
  generalize hwaiting : op :: ops = waiting at h
  induction h generalizing ds with
  | start => cases hwaiting
  | plus h ih =>
      have hoperand : op.operand ≠ .primary := by cases op <;> decide
      rw [List.append_assoc]
      exact ih (he.plus_cons hoperand) hwaiting
  | @minus ls es _ h _ =>
      cases hwaiting
      rw [List.append_assoc]
      exact ⟨.neg e :: es, rfl, .mk h (.minus he) (Level.fits_of_le (by decide) _)⟩
  | opening _ _ =>
      cases hwaiting
      exact absurd rfl hop
  | @between ls ds' l es _ c _ h hc hl hfits _ =>
      cases hwaiting
      obtain ⟨e', he', happly⟩ := Derives.exists_between (n := n) hc hl he
      rw [List.append_assoc, List.append_assoc]
      exact ⟨e' :: es, happly _, .mk h he' hfits⟩

theorem Awaits.close {ls ds : List Lexeme} {es : List Tree} {e : Tree} {ops : List Operator}
    (h : Awaits ls es (.group :: ops)) (he : Derives .sum ds e) :
    Ends .primary (ls ++ ds ++ [.symbol ')']) (e :: es) ops := by
  generalize hwaiting : Operator.group :: ops = waiting at h
  induction h generalizing ds with
  | start => cases hwaiting
  | plus _ ih =>
      rw [List.append_assoc _ _ ds]
      exact ih (he.plus_cons (by decide)) hwaiting
  | minus _ _ => cases hwaiting
  | opening h _ =>
      cases hwaiting
      rw [List.append_assoc, List.append_assoc]
      exact .mk h (.group he) (Level.fits_of_le (by decide) _)
  | between _ hc _ _ _ =>
      cases hwaiting
      exact absurd rfl (Operator.ne_group_of_between? hc)

theorem Awaits.derives {ls ds : List Lexeme} {es : List Tree} {e : Tree} (h : Awaits ls es [])
    (he : Derives .sum ds e) : es = [] ∧ Derives .sum (ls ++ ds) e := by
  generalize hwaiting : ([] : List Operator) = waiting at h
  induction h generalizing ds with
  | start => exact ⟨rfl, he⟩
  | plus _ ih =>
      rw [List.append_assoc]
      exact ih (he.plus_cons (by decide)) hwaiting
  | minus _ _ => cases hwaiting
  | opening _ _ => cases hwaiting
  | between _ _ _ _ _ => cases hwaiting

theorem Ends.settle {j k : Level} {ls : List Lexeme} {es : List Tree} {ops ops' : List Operator}
    {values : List α} (h : Ends k ls es ops) (hj : j = .sum ∨ j = .product)
    (hle : j.binding ≤ k.binding)
    (hsettle : Arithmetic.settle n j.binding (es.map (Tree.value n)) ops = .ok (values, ops')) :
    ∃ es', values = es'.map (Tree.value n) ∧ Ends j ls es' ops' := by
  induction ops generalizing k es with
  | nil =>
      cases hsettle
      cases h with
      | mk h he _ => exact ⟨_, rfl, .mk h (he.weaken hle) j.fits_nil⟩
  | cons op ops ih =>
      cases h with
      | @mk ls ds e es _ h he hfits =>
          by_cases hop : op ≠ .group ∧ j.binding ≤ op.binding
          · obtain ⟨hgroup, hbinding⟩ := hop
            obtain ⟨es', happly, hends⟩ :=
              h.apply hgroup (he.weaken (Level.fits_cons.mp hfits))
            rw [settle_of_apply hgroup hbinding happly] at hsettle
            exact ih hends (hbinding.trans (Operator.binding_eq_level hgroup).le) hsettle
          · rw [Arithmetic.settle, if_neg hop] at hsettle
            cases hsettle
            rw [← Operator.operand_le_iff hj] at hop
            exact ⟨_, rfl, .mk h (he.weaken hle) (Level.fits_cons.mpr hop)⟩

/-- What the state of the machine says about the lexemes that it has taken. -/
inductive Follows (n : Numbers α) : List Lexeme → Machine α → Prop
  | awaiting {ls : List Lexeme} {es : List Tree} {ops : List Operator} (h : Awaits ls es ops) :
      Follows n ls ⟨es.map (Tree.value n), ops, true⟩
  | complete {ls : List Lexeme} {es : List Tree} {ops : List Operator}
      (h : Ends .primary ls es ops) : Follows n ls ⟨es.map (Tree.value n), ops, false⟩

theorem Follows.step {ls : List Lexeme} {l : Lexeme} {m m' : Machine α} (h : Follows n ls m)
    (hstep : Step n m l m') : Follows n (ls ++ [l]) m' := by
  have hprimary : ∀ ops, Level.primary.Fits ops := Level.fits_of_le (by decide)
  cases hstep with
  | @numeral _ _ t ht =>
      cases h with
      | awaiting h =>
          rw [isNumeral, Bool.and_eq_true, decide_eq_true_eq] at ht
          exact .complete (.mk h (.number ht.1 ht.2) (hprimary _))
  | opening =>
      cases h with
      | awaiting h => exact .awaiting h.opening
  | closing hclose =>
      cases h with
      | complete h =>
          obtain ⟨es', rfl, hends⟩ :=
            h.settle (.inl rfl) (by decide) (closeGroup_eq_ok_iff.mp hclose)
          cases hends with
          | mk h he _ => exact .complete (h.close he)
  | plus =>
      cases h with
      | awaiting h => exact .awaiting h.plus
  | minus =>
      cases h with
      | awaiting h => exact .awaiting h.minus
  | @between _ _ _ _ c op hc hsettle =>
      cases h with
      | complete h =>
          have hgroup := Operator.ne_group_of_between? hc
          rw [Operator.binding_eq_level hgroup] at hsettle
          obtain ⟨es', rfl, hends⟩ :=
            h.settle (Operator.level_of_between? hc) (by cases op <;> decide) hsettle
          cases hends with
          | mk h he hfits => exact .awaiting (h.between hc he hfits)

theorem Follows.steps {ls rs : List Lexeme} {m m' : Machine α} (h : Follows n ls m)
    (hsteps : Steps n m rs m') : Follows n (ls ++ rs) m' := by
  induction hsteps generalizing ls with
  | nil => rwa [List.append_nil]
  | @cons m m₁ m' l rs hstep _ ih =>
      have hrest := ih (h.step hstep)
      rwa [List.append_assoc] at hrest

theorem Follows.derives {ls : List Lexeme} {m : Machine α} {x : α} (h : Follows n ls m)
    (hresult : m.result n = .ok x) : ∃ e, Derives .sum ls e ∧ e.value n = x := by
  obtain ⟨hwants, hfinish⟩ := result_eq_ok_iff.mp hresult
  cases h with
  | awaiting h => cases hwants
  | complete h =>
      obtain ⟨es, hvalues, hends⟩ :=
        h.settle (.inl rfl) (by decide) (finish_eq_ok_iff.mp hfinish)
      cases hends with
      | mk h he _ =>
          obtain ⟨rfl, hsum⟩ := h.derives he
          exact ⟨_, hsum, (List.cons.inj hvalues).1.symm⟩

/-! ### Agreement -/

/-- The lexemes of a source derive from the grammar exactly when the source has a value. -/
theorem exists_derives_iff {ls : List Lexeme} {x : α} :
    (∃ m, Steps n {} ls m ∧ m.result n = .ok x) ↔ ∃ e, Derives .sum ls e ∧ e.value n = x := by
  constructor
  · rintro ⟨m, hsteps, hresult⟩
    have hfollows : Follows n ([] ++ ls) m := (Follows.awaiting .start).steps hsteps
    exact hfollows.derives hresult
  · rintro ⟨e, he, rfl⟩
    obtain ⟨values, ops, hsteps, hsettle⟩ := he.computes (n := n) [] [] Level.sum.fits_nil
    refine ⟨_, hsteps, result_eq_ok_iff.mpr ⟨rfl, ?_⟩⟩
    rw [finish_eq_ok_iff, hsettle 1 le_rfl]
    rfl

/-- Numbers that are the trees of their calculation. -/
def Numbers.free : Numbers Tree :=
  ⟨.numeral, .neg, .add, .sub, .mul, .div⟩

theorem Tree.value_free (e : Tree) : e.value .free = e := by
  induction e with
  | numeral t => rfl
  | neg e ih => exact congrArg Tree.neg ih
  | add l r ihl ihr => exact congrArg₂ Tree.add ihl ihr
  | sub l r ihl ihr => exact congrArg₂ Tree.sub ihl ihr
  | mul l r ihl ihr => exact congrArg₂ Tree.mul ihl ihr
  | div l r ihl ihr => exact congrArg₂ Tree.div ihl ihr

theorem Step.unique {m m₁ m₂ : Machine α} {l : Lexeme} (h₁ : Step n m l m₁)
    (h₂ : Step n m l m₂) : m₁ = m₂ := by
  have htake : m.take n 0 l = .ok m₁ := take_eq_ok_iff.mpr h₁
  rw [take_eq_ok_iff.mpr h₂] at htake
  exact (Except.ok.inj htake).symm

theorem Steps.unique {m m₁ m₂ : Machine α} {ls : List Lexeme} (h₁ : Steps n m ls m₁)
    (h₂ : Steps n m ls m₂) : m₁ = m₂ := by
  induction h₁ with
  | nil =>
      cases h₂
      rfl
  | cons hstep _ ih =>
      cases h₂ with
      | cons hstep' hsteps =>
          cases hstep.unique hstep'
          exact ih hsteps

/-- The grammar is unambiguous: the machine computes every tree of a source, and it has one
result. -/
theorem Derives.unique {ls : List Lexeme} {e e' : Tree} (h : Derives .sum ls e)
    (h' : Derives .sum ls e') : e = e' := by
  obtain ⟨m, hsteps, hresult⟩ := exists_derives_iff.mpr ⟨e, h, e.value_free⟩
  obtain ⟨m', hsteps', hresult'⟩ := exists_derives_iff.mpr ⟨e', h', e'.value_free⟩
  cases hsteps.unique hsteps'
  exact Except.ok.inj (hresult.symm.trans hresult')

/-- A text has a value exactly when it is spelled by lexemes that derive from the grammar, and
its value is that of their tree. -/
theorem eval_eq_ok_iff {s : Text} {x : α} :
    eval n s = .ok x ↔ ∃ ls e, Spells ls s ∧ Derives .sum ls e ∧ e.value n = x := by
  have heval : eval n s = .ok x ↔
      ∃ m, Steps n {} ((lexemes 0 s).map Prod.snd) m ∧ m.result n = .ok x := by
    constructor
    · intro h
      obtain ⟨m, hrun, hresult⟩ := exists_of_bind_eq_ok h
      exact ⟨m, run_eq_ok_iff.mp hrun, hresult⟩
    · rintro ⟨m, hsteps, hresult⟩
      rw [eval, run_eq_ok_iff.mpr hsteps]
      exact hresult
  rw [heval, exists_derives_iff]
  constructor
  · rintro ⟨e, he, hvalue⟩
    exact ⟨_, e, spells_lexemes 0 s, he, hvalue⟩
  · rintro ⟨ls, e, hspells, he, hvalue⟩
    rw [hspells.lexemes_eq 0]
    exact ⟨e, he, hvalue⟩

end CopyFormat.Script.Arithmetic
