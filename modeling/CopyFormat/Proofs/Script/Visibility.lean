import CopyFormat.Proofs.Script.Parts

/-!
Which names a script can see. Every name that is looked up on the way is a piece of the script, so
that contexts in which these names mean the same give the same value, or the same error.
-/

namespace CopyFormat.Script

variable {ctx ctx' : Context} {s t : Text}

/-- Two contexts have the same moment, and every name that occurs in a text means the same in both
or nothing in both. -/
structure AlikeOn (s : Text) (ctx ctx' : Context) : Prop where
  now_eq : ctx.now = ctx'.now
  binding_eq : ∀ name, name <:+: s → ctx.binding name = ctx'.binding name

namespace AlikeOn

theorem mono (h : AlikeOn s ctx ctx') (ht : t <:+: s) : AlikeOn t ctx ctx' :=
  ⟨h.now_eq, fun name hname => h.binding_eq name (hname.trans ht)⟩

theorem excerpt (h : AlikeOn s ctx ctx') (ht : Excerpt s t) : AlikeOn t ctx ctx' :=
  h.mono ht.isInfix

theorem set_of_not_isInfix {name : Text} (h : ¬name <:+: s) (v : Value) :
    AlikeOn s ctx (ctx.set name v) := by
  refine ⟨rfl, fun n hn => ?_⟩
  have hne : n ≠ name := by
    rintro rfl
    exact h hn
  exact (if_neg hne).symm

theorem contains_eq (h : AlikeOn s ctx ctx') : ctx.contains s = ctx'.contains s := by
  rw [Context.contains, Context.contains, h.binding_eq s (List.infix_refl s)]

theorem operation?_eq (h : AlikeOn s ctx ctx') : ctx.operation? s = ctx'.operation? s := by
  rw [Context.operation?, Context.operation?, h.binding_eq s (List.infix_refl s)]

theorem identifier?_eq (h : AlikeOn s ctx ctx') :
    Shape.identifier? ctx s = Shape.identifier? ctx' s := by
  rw [Shape.identifier?, Shape.identifier?, h.contains_eq]

theorem call?_eq (h : AlikeOn s ctx ctx') : Shape.call? ctx s = Shape.call? ctx' s := by
  unfold Shape.call?
  refine Option.bind_congr fun place _ => ?_
  have hname : AlikeOn (Shape.callee (s.take place)).2 ctx ctx' :=
    (h.mono (List.take_prefix place s).isInfix).excerpt (Shape.excerpt_callee _)
  dsimp only
  rw [hname.operation?_eq]

theorem operand?_eq (h : AlikeOn s ctx ctx') : Shape.operand? ctx s = Shape.operand? ctx' s := by
  rw [Shape.operand?, Shape.operand?, h.identifier?_eq, h.call?_eq]

theorem isOperand_eq (h : AlikeOn s ctx ctx') : Shape.isOperand ctx s = Shape.isOperand ctx' s := by
  rw [Shape.isOperand, Shape.isOperand, (h.excerpt (excerpt_trim s)).operand?_eq]

theorem length?_eq (h : AlikeOn s ctx ctx') : Shape.length? ctx s = Shape.length? ctx' s := by
  unfold Shape.length?
  refine Option.bind_congr fun ⟨target, comparison, bound⟩ hform => ?_
  dsimp only
  rw [(h.excerpt (Shape.excerpt_of_lengthForm? hform)).isOperand_eq]

theorem of?_eq (h : AlikeOn s ctx ctx') : Shape.of? ctx s = Shape.of? ctx' s := by
  rw [Shape.of?, Shape.of?, h.length?_eq, h.operand?_eq]

theorem holds_eq (h : AlikeOn s ctx ctx') (eval : Text → Except EvalFault Value) :
    holds ctx eval s = holds ctx' eval s := by
  rw [holds, holds, h.length?_eq]
  split
  · rfl
  · split
    · rfl
    · rename_i target needle hincludes _
      obtain ⟨htarget, hneedle⟩ := Shape.excerpt_of_includes? hincludes
      rw [(h.excerpt htarget).isOperand_eq, (h.excerpt hneedle).isOperand_eq]
    · rfl

theorem value_eq {shape : Shape} (h : ∀ t ∈ shape.texts, AlikeOn t ctx ctx')
    (eval : Text → Except EvalFault Value) : shape.value ctx eval = shape.value ctx' eval := by
  cases shape with
  | choice condition accepted refused =>
      rw [Shape.value, Shape.value, (h condition List.mem_cons_self).holds_eq]
  | length target comparison bound => rfl
  | substring target start stop => rfl
  | identifier name =>
      rw [Shape.value, Shape.value,
        (h name List.mem_cons_self).binding_eq name (List.infix_refl name)]
  | call name receiver arguments =>
      have hname := h name List.mem_cons_self
      rw [Shape.value, Shape.value, hname.operation?_eq, hname.now_eq]
  | literal t => rfl
  | arithmetic source => rfl

theorem evalAt_eq (h : AlikeOn s ctx ctx') (limit levels : Nat) :
    evalAt ctx limit levels s = evalAt ctx' limit levels s := by
  induction levels generalizing s with
  | zero => rfl
  | succ levels ih =>
      have htrim : AlikeOn (Text.trim s) ctx ctx' := h.excerpt (excerpt_trim s)
      rw [evalAt, evalAt, htrim.of?_eq]
      cases hshape : Shape.of? ctx' (Text.trim s) with
      | none => rfl
      | some shape =>
          calc
            shape.value ctx (evalAt ctx limit levels) =
                shape.value ctx (evalAt ctx' limit levels) :=
              Shape.value_congr fun t ht =>
                ih (htrim.excerpt (Shape.excerpt_of_mem_parts hshape ht))
            _ = shape.value ctx' (evalAt ctx' limit levels) :=
              value_eq (fun t ht => htrim.excerpt (Shape.excerpt_of_mem_texts hshape ht)) _

end AlikeOn

/-- A script sees nothing of its context but the moment and the names that occur in it. -/
theorem evaluate_eq_of_alikeOn {source : Text} (h : AlikeOn source ctx ctx') (limits : Limits) :
    evaluate limits ctx source = evaluate limits ctx' source := by
  rw [evaluate, evaluate, h.evalAt_eq]

/-- The page's domain is of no account for a script that does not mention it, whether there is one
or not. -/
theorem evaluate_without_domain :
    let ctx := (Context.operations default).set (Text.lit "title") (.text (Text.lit "abc"))
    let ctx' := ctx.set (Text.lit "domain") (.text (Text.lit "example.org"))
    let source := Text.lit "if (title.includes('b')) ? upper(title) : path"
    AlikeOn source ctx ctx' ∧ evaluate {} ctx source = evaluate {} ctx' source := by
  intro ctx ctx' source
  have halike : AlikeOn source ctx ctx' := .set_of_not_isInfix (by decide +kernel) _
  exact ⟨halike, evaluate_eq_of_alikeOn halike {}⟩

end CopyFormat.Script
