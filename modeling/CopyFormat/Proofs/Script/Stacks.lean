import CopyFormat.Proofs.Script.Grammar

/-!
The stacks of the machine for arithmetic. There are as many values as operators that wait between
two operands, and one more when no operand must come next. So whichever operators are applied, each
finds its operands, one value is left in the end, and no source is called malformed.
-/

namespace CopyFormat.Script.Arithmetic

variable {α : Type} {n : Numbers α} {op : Operator} {values values' : List α}
  {ops ops' : List Operator} {m : Machine α}

def Operator.operands : Operator → Nat
  | .group => 0
  | .neg => 1
  | .add | .sub | .mul | .div => 2

/-- How many operators that stand between two operands wait. -/
def binaries (ops : List Operator) : Nat := ops.countP fun op => op.operands == 2

/-- There is one value more than operators that wait between two operands. -/
def OneMore (values : List α) (ops : List Operator) : Prop := values.length = binaries ops + 1

/-- As many values are complete as operators wait between two operands, and one more when no operand
must come next. -/
def Machine.Tallies (m : Machine α) : Prop :=
  m.values.length = binaries m.operators + if m.wantsOperand then 0 else 1

theorem binaries_cons (op : Operator) (ops : List Operator) :
    binaries (op :: ops) = binaries ops + (op.operands - 1) := by
  rw [binaries, List.countP_cons]
  cases op <;> rfl

theorem Operator.operands_pos (hop : op ≠ .group) : 0 < op.operands := by
  cases op with
  | group => exact absurd rfl hop
  | _ => exact Nat.succ_pos _

theorem Operator.operands_of_between? {c : Char} (hc : Operator.between? c = some op) :
    op.operands = 2 := by
  rcases between?_eq_some hc with ⟨-, rfl⟩ | ⟨-, rfl⟩ | ⟨-, rfl⟩ | ⟨-, rfl⟩ <;> rfl

/-- An operator fails only for want of operands, and an open parenthesis always does. -/
theorem Operator.apply_eq_error_iff {f : ArithmeticFault} :
    op.apply n values = .error f ↔
      f = .malformed ∧ (op = .group ∨ values.length < op.operands) := by
  cases op <;> rcases values with _ | ⟨x, _ | ⟨y, values⟩⟩ <;>
    simp [Operator.apply, Operator.operands, eq_comm]

theorem Operator.length_of_apply (h : op.apply n values = .ok values') :
    op ≠ .group ∧ values'.length + op.operands = values.length + 1 := by
  cases op <;> rcases values with _ | ⟨x, _ | ⟨y, values⟩⟩ <;> cases h <;>
    simp [Operator.operands]

theorem OneMore.of_apply (h : OneMore values (op :: ops)) (happly : op.apply n values = .ok values') :
    OneMore values' ops := by
  obtain ⟨hgroup, hlength⟩ := Operator.length_of_apply happly
  have hpos := Operator.operands_pos hgroup
  rw [OneMore, binaries_cons] at h
  rw [OneMore]
  omega

theorem OneMore.operands_le (h : OneMore values (op :: ops)) : op.operands ≤ values.length := by
  rw [OneMore, binaries_cons] at h
  omega

theorem OneMore.exists_apply (h : OneMore values (op :: ops)) (hop : op ≠ .group) :
    ∃ values', op.apply n values = .ok values' ∧ OneMore values' ops := by
  cases happly : op.apply n values with
  | ok values' => exact ⟨values', rfl, h.of_apply happly⟩
  | error f =>
      rcases (Operator.apply_eq_error_iff.mp happly).2 with hgroup | hfew
      · exact absurd hgroup hop
      · exact absurd hfew h.operands_le.not_gt

/-- Waiting operators are applied one after the other, which leads from the values and operators of
one moment to those of a later one. -/
inductive Unwinds (n : Numbers α) : List α → List Operator → List α → List Operator → Prop
  | nil (values : List α) (ops : List Operator) : Unwinds n values ops values ops
  | cons {values values₁ values' : List α} {op : Operator} {ops ops' : List Operator}
      (h : op.apply n values = .ok values₁) (hs : Unwinds n values₁ ops values' ops') :
      Unwinds n values (op :: ops) values' ops'

theorem Unwinds.oneMore (hs : Unwinds n values ops values' ops') (h : OneMore values ops) :
    OneMore values' ops' := by
  induction hs with
  | nil => exact h
  | cons happly _ ih => exact ih (h.of_apply happly)

/-- The computation does not call its source malformed, and what it gives satisfies `P`. -/
def Sound {β : Type} (P : β → Prop) : Except ArithmeticFault β → Prop
  | .ok b => P b
  | .error f => f ≠ .malformed

theorem Sound.bind {β γ : Type} {P : β → Prop} {Q : γ → Prop} {x : Except ArithmeticFault β}
    {f : β → Except ArithmeticFault γ} (hx : Sound P x) (hf : ∀ b, P b → Sound Q (f b)) :
    Sound Q (x >>= f) := by
  cases x with
  | ok b => exact hf b hx
  | error e => exact hx

theorem Sound.of_eq_ok {β : Type} {P : β → Prop} {x : Except ArithmeticFault β} {b : β}
    (hx : Sound P x) (h : x = .ok b) : P b := by
  rw [h] at hx
  exact hx

theorem OneMore.apply_sound (h : OneMore values (op :: ops)) (hop : op ≠ .group) :
    Sound (fun values' => OneMore values' ops) (op.apply n values) := by
  obtain ⟨values', happly, h'⟩ := h.exists_apply (n := n) hop
  rw [happly]
  exact h'

theorem OneMore.settle_sound (h : OneMore values ops) (least : Nat) :
    Sound (fun r => OneMore r.1 r.2) (settle n least values ops) := by
  induction ops generalizing values with
  | nil => exact h
  | cons op ops ih =>
      rw [settle]
      split
      · rename_i hop
        exact (h.apply_sound hop.1).bind fun values' h' => ih h'
      · exact h

theorem OneMore.closeGroup_sound (h : OneMore values ops) :
    Sound (fun r => OneMore r.1 r.2) (closeGroup n values ops) := by
  induction ops generalizing values with
  | nil => exact nofun
  | cons op ops ih =>
      by_cases hop : op = .group
      · subst hop
        exact h
      · rw [closeGroup]
        · exact (h.apply_sound hop).bind fun values' h' => ih h'
        · exact hop

theorem OneMore.finish_sound (h : OneMore values ops) :
    Sound (fun values => ∃ x, values = [x]) (finish n values ops) := by
  induction ops generalizing values with
  | nil => exact List.length_eq_one_iff.mp h
  | cons op ops ih =>
      by_cases hop : op = .group
      · subst hop
        exact nofun
      · rw [finish]
        · exact (h.apply_sound hop).bind fun values' h' => ih h'
        · exact hop

theorem Machine.Tallies.take_sound (h : m.Tallies) (place : Nat) (l : Lexeme) :
    Sound Machine.Tallies (m.take n place l) := by
  obtain ⟨values, ops, wants⟩ := m
  unfold Machine.take
  split
  · cases wants with
    | false => exact nofun
    | true =>
        dsimp only [Bool.not_true]
        split
        · exact nofun
        · split
          · exact congrArg Nat.succ h
          · exact nofun
  · cases wants with
    | false => exact nofun
    | true => exact h
  · cases wants with
    | true => exact nofun
    | false => exact (OneMore.closeGroup_sound h).bind fun r hr => hr
  · split
    · exact nofun
    · rename_i op hop
      cases wants with
      | true =>
          -- a plus in front of an operand is dropped, and a minus there takes no value from the left
          rcases between?_eq_some hop with ⟨rfl, rfl⟩ | ⟨rfl, rfl⟩ | ⟨rfl, rfl⟩ | ⟨rfl, rfl⟩
          · exact h
          · exact h
          · exact nofun
          · exact nofun
      | false =>
          refine (OneMore.settle_sound h op.binding).bind fun r hr => ?_
          change r.1.length = binaries (op :: r.2)
          rw [binaries_cons, Operator.operands_of_between? hop]
          exact hr

theorem Machine.Tallies.run_sound (h : m.Tallies) (ls : List (Nat × Lexeme)) :
    Sound Machine.Tallies (m.run n ls) := by
  induction ls generalizing m with
  | nil => exact h
  | cons l ls ih => exact (h.take_sound l.1 l.2).bind fun m' h' => ih h'

theorem Machine.Tallies.result_sound (h : m.Tallies) : Sound (fun _ => True) (m.result n) := by
  obtain ⟨values, ops, wants⟩ := m
  cases wants with
  | true => exact nofun
  | false =>
      refine (OneMore.finish_sound h).bind fun values' h' => ?_
      obtain ⟨x, rfl⟩ := h'
      exact trivial

theorem tallies_start : ({} : Machine α).Tallies := rfl

theorem eval_sound (s : Text) : Sound (fun _ => True) (eval n s) :=
  (tallies_start.run_sound (lexemes 0 s)).bind fun _ h => h.result_sound

def initial : ArithmeticFault → Char
  | .invalidNumber _ => 'i'
  | .endsEarly => 'a'
  | .malformed => 'm'
  | _ => 'u'

theorem head?_message (f : ArithmeticFault) : f.message.head? = some (initial f) := by
  cases f <;> rfl

theorem message_ne_malformed {f : ArithmeticFault} (h : f ≠ .malformed) :
    f.message ≠ ArithmeticFault.malformed.message := by
  intro hmessage
  have hinitial : initial f = 'm' := by
    have hhead := congrArg List.head? hmessage
    rw [head?_message, head?_message] at hhead
    exact Option.some.inj hhead
  cases f with
  | malformed => exact h rfl
  | _ => cases hinitial

/-- Wherever the machine has come in a source, its stacks tally. While no operand must come next,
whichever operators are applied in a row, the next one finds its operands unless it is an open
parenthesis, which no loop applies; and when all have been applied, one value is left. So no source is
called malformed. -/
theorem stacks_never_underflow (n : Numbers α) (s : Text) :
    (∀ ls m, ls <+: lexemes 0 s → Machine.run n {} ls = .ok m →
      m.Tallies ∧ (m.wantsOperand = false →
        (∀ values op ops, Unwinds n m.values m.operators values (op :: ops) →
          op.operands ≤ values.length ∧ (op ≠ .group → ∃ values', op.apply n values = .ok values')) ∧
        ∀ values, finish n m.values m.operators = .ok values → ∃ x, values = [x])) ∧
    ∀ f, eval n s = .error f → f.message ≠ Text.lit "malformed arithmetic expression" := by
  constructor
  · intro ls m _ hrun
    have htally : m.Tallies := (tallies_start.run_sound ls).of_eq_ok hrun
    refine ⟨htally, fun hwants => ?_⟩
    have hone : OneMore m.values m.operators := by
      rw [Machine.Tallies, hwants] at htally
      exact htally
    refine ⟨fun values op ops hs => ?_, fun values hfinish => hone.finish_sound.of_eq_ok hfinish⟩
    have hnext := hs.oneMore hone
    refine ⟨hnext.operands_le, fun hop => ?_⟩
    obtain ⟨values', happly, -⟩ := hnext.exists_apply (n := n) hop
    exact ⟨values', happly⟩
  · intro f hf
    have hsound := eval_sound (n := n) s
    rw [hf] at hsound
    exact message_ne_malformed hsound

/-- Two operators wait when the source goes wrong; the first has been applied when the second finds
its operands. -/
theorem stacks_never_underflow_waiting :
    let s := Text.lit "1-2*3("
    let ls := (lexemes 0 s).take 5
    let one := Tree.numeral ['1']
    let product := Tree.mul (.numeral ['2']) (.numeral ['3'])
    let m : Machine Tree := ⟨[.numeral ['3'], .numeral ['2'], one], [.mul, .sub], false⟩
    (ls <+: lexemes 0 s ∧ Machine.run .free {} ls = .ok m) ∧
      Unwinds .free m.values m.operators [product, one] [.sub] ∧
      finish .free m.values m.operators = .ok [.sub one product] ∧
      eval .free s = .error (.unexpectedSymbol '(' 5) ∧
      m.Tallies ∧ (∃ values, Operator.sub.apply .free [product, one] = .ok values) ∧
      (∃ x, [Tree.sub one product] = [x]) ∧
      (ArithmeticFault.unexpectedSymbol '(' 5).message ≠
        Text.lit "malformed arithmetic expression" := by
  intro s ls one product m
  have hls : ls <+: lexemes 0 s := List.take_prefix 5 _
  have hrun : Machine.run .free {} ls = .ok m := rfl
  have hunwinds : Unwinds .free m.values m.operators [product, one] [.sub] := .cons rfl (.nil _ _)
  have hfinish : finish .free m.values m.operators = .ok [.sub one product] := rfl
  have heval : eval .free s = .error (.unexpectedSymbol '(' 5) := rfl
  obtain ⟨hstates, hmessages⟩ := stacks_never_underflow .free s
  obtain ⟨htally, hloops⟩ := hstates ls m hls hrun
  obtain ⟨happlies, hfinishes⟩ := hloops rfl
  exact ⟨⟨hls, hrun⟩, hunwinds, hfinish, heval, htally,
    (happlies _ _ _ hunwinds).2 (by decide), hfinishes _ hfinish, hmessages _ heval⟩

end CopyFormat.Script.Arithmetic
