import CopyFormat.PageValues
import CopyFormat.Proofs.Script.Shapes

/-!
Evaluating a text that writes an expression gives the meaning of the expression. One step
recognises the shape of the text, whose parts write the parts of the expression; the rest is an
induction on the levels.
-/

namespace CopyFormat.Script

variable {ctx : Context} {e : Expr} {s : Text}

theorem evalAt_trim (ctx : Context) (limit levels : Nat) (s : Text) :
    evalAt ctx limit levels (Text.trim s) = evalAt ctx limit levels s := by
  cases levels with
  | zero => rfl
  | succ levels => rw [evalAt, evalAt, Text.trim_trim]

theorem mapM_eq_meanings {eval : Text → Except EvalFault Value} {parts : List (Expr × Text)}
    (h : ∀ a ∈ parts, eval (Text.trim a.2) = a.1.meaning ctx) :
    (parts.map fun a => Text.trim a.2).mapM eval = Expr.meanings ctx (parts.map Prod.fst) := by
  induction parts with
  | nil => rfl
  | cons a parts ih =>
      have hrest := ih fun b hb => h b (List.mem_cons_of_mem a hb)
      rw [List.map_cons, List.map_cons, List.mapM_cons, h a List.mem_cons_self, hrest,
        Expr.meanings]

theorem compareLength_eq {eval : Text → Except EvalFault Value} {target : Expr}
    (h : eval s = target.meaning ctx) (comparison : Comparison) (bound : Nat) :
    compareLength eval s comparison bound = (do
      let v ← target.meaning ctx
      let n ← v.extent
      return compare n bound ∈ comparison.orders) := by
  simp only [compareLength, h, Value.length_eq, Comparison.holds_eq]

/-- The value of a shape is the meaning of the expression that it fits, as soon as the parts have
the meanings of the parts. -/
theorem Fits.value_eq {shape : Shape} {eval : Text → Except EvalFault Value}
    (h : Fits ctx e shape)
    (heval : ∀ {d : Expr} {t : Text}, Writes ctx d t → d.nesting < e.nesting →
      eval (Text.trim t) = d.meaning ctx) :
    shape.value ctx eval = e.meaning ctx := by
  cases h with
  | identifier hname =>
      rw [Shape.value, Expr.meaning, hname]
  | literal t => 
      rw [Shape.value, Expr.meaning]
  | arithmetic hsource h =>
      rw [Shape.value, Expr.meaning, hsource, h]
  | @substring target s h start stop =>
      rw [Shape.value, Expr.meaning, heval h (by rw [Expr.nesting]; omega)]
      simp only [substring_eq]
  | @call name op receiver arguments hname h =>
      have hparts : (receiver.map fun a => Text.trim a.2).toList ++
          arguments.map (fun a => Text.trim a.2) =
            (receiver.toList ++ arguments).map fun a => Text.trim a.2 := by
        cases receiver <;> simp
      have hvalues : ((receiver.toList ++ arguments).map fun a => Text.trim a.2).mapM eval =
          Expr.meanings ctx ((receiver.toList ++ arguments).map Prod.fst) :=
        mapM_eq_meanings fun a ha =>
          heval (h a ha) (Expr.nesting_lt_of_mem (List.mem_map_of_mem ha))
      rw [Shape.value, Expr.meaning, hname, hparts]
      simp only [hvalues]
  | @length target s h comparison bound =>
      have htarget := heval h (by rw [Expr.nesting]; omega)
      rw [Shape.value, Expr.meaning, compareLength_eq htarget]
      change Value.boolean <$> (_ : Except EvalFault Bool) = _
      simp only [map_bind, map_pure]
  | @choice target accepted refused comparison bound condition c s t hcondition hlength hc hs ht =>
      have htarget := heval hc (by rw [Expr.nesting]; omega)
      have haccepted := heval hs (by rw [Expr.nesting]; omega)
      have hrefused := heval ht (by rw [Expr.nesting]; omega)
      rw [Shape.value, Expr.meaning, holds, hcondition, hlength, haccepted, hrefused]
      simp only [Bool.false_eq_true, if_false, compareLength_eq htarget, bind_assoc, pure_bind,
        decide_eq_true_eq]

theorem evalAt_eq_meaning (hnames : ctx.HasNames) (hbuilt : ctx.Built) (limit : Nat) {levels : Nat}
    (h : Writes ctx e s) (hlevels : e.nesting < levels) :
    evalAt ctx limit levels s = e.meaning ctx := by
  induction levels generalizing e s with
  | zero => omega
  | succ levels ih =>
      obtain ⟨shape, hshape, hfits⟩ := h.of? hnames hbuilt
      rw [evalAt, hshape]
      refine hfits.value_eq fun hd hlt => ?_
      rw [evalAt_trim]
      exact ih hd (by omega)

theorem Context.hasNames_operations (now : Date.Moment) : (Context.operations now).HasNames := by
  intro name hname
  have hall : Operation.table.all fun p => Shape.isName p.1.toList := by decide
  obtain ⟨op, hop⟩ := Option.isSome_iff_exists.mp hname
  obtain ⟨op', hop', -⟩ := Option.map_eq_some_iff.mp hop
  obtain ⟨p, hp, -⟩ := Option.map_eq_some_iff.mp hop'
  have hfound := List.find?_some hp
  rw [← of_decide_eq_true hfound]
  exact List.all_eq_true.mp hall p (List.mem_of_find?_eq_some hp)

theorem Context.HasNames.set (h : ctx.HasNames) {name : Text} (hname : Shape.isName name = true)
    (v : Value) : (ctx.set name v).HasNames := by
  intro n hn
  by_cases heq : n = name
  · rw [heq, hname]
  · refine h n ?_
    rw [Context.contains, Context.set] at hn
    dsimp only at hn
    rwa [if_neg heq] at hn

theorem PageValues.context_spec (v : PageValues) (now : Date.Moment) :
    (v.context now).Built ∧ (v.context now).HasNames := by
  have hfold : ∀ (values : List (String × Text)) {ctx : Context}, ctx.Built ∧ ctx.HasNames →
      (∀ p ∈ values, Shape.isName p.1.toList = true) →
      let ctx' := values.foldl (fun ctx p => ctx.set p.1.toList (.text p.2)) ctx
      ctx'.Built ∧ ctx'.HasNames := by
    intro values
    induction values with
    | nil => exact fun h _ => h
    | cons p values ih =>
        rintro ctx ⟨hbuilt, hnames⟩ hvalues
        exact ih ⟨.set hbuilt _ _, hnames.set (hvalues p List.mem_cons_self) _⟩
          fun q hq => hvalues q (List.mem_cons_of_mem p hq)
  have hvalues : ∀ p ∈ v.named, Shape.isName p.1.toList = true := by
    simp only [PageValues.named, List.forall_mem_cons]
    exact ⟨by decide, by decide, by decide, by decide, by decide, by simp⟩
  obtain ⟨hbuilt, hnames⟩ :=
    hfold v.named ⟨.operations now, Context.hasNames_operations now⟩ hvalues
  exact ⟨.set hbuilt _ _, hnames.set (by decide) _⟩

/-- Whatever a well-formed expression looks like as a text, its evaluation is its meaning. -/
theorem evaluate_eq_meaning {limits : Limits} (hnames : ctx.HasNames) (hbuilt : ctx.Built)
    (h : Writes ctx e s) (hdepth : e.nesting ≤ limits.depth)
    (hcheck : check limits.deniedWords s = .ok ()) :
    evaluate limits ctx s = (e.meaning ctx).mapError .evaluation := by
  rw [evaluate, hcheck, evalAt_eq_meaning hnames hbuilt limits.depth h (by omega)]
  rfl

def titled (title : Text) : PageValues :=
  { title, url := [], domain := [], path := [], selectedText := [] }

/-- A choice whose accepted branch is a call with a part and a literal as its arguments. -/
theorem evaluate_choice_written :
    let ctx := (titled (Text.lit "Hello")).context default
    let source :=
      Text.lit "if (title.length > 3) ? concat(title.substring(0, 2), '!') : title"
    check [] source = .ok () ∧ evaluate {} ctx source = .ok (.text (Text.lit "He!")) := by
  intro ctx source
  have hcheck : check [] source = .ok () := by decide +kernel
  obtain ⟨hbuilt, hnames⟩ := PageValues.context_spec (titled (Text.lit "Hello")) default
  have htitle : Writes ctx (.identifier (Text.lit "title")) (Text.lit "title") :=
    .identifier (v := .text (Text.lit "Hello")) rfl
  have hspace : Text.isBlankText [' '] = true := by decide
  have hnone : Text.isBlankText [] = true := rfl
  have hzero : IsIndex ['0'] := by decide
  have htwo : IsIndex ['2'] := by decide
  have hthree : IsIndex ['3'] := by decide
  have hconcat : ctx.operation? (Text.lit "concat") = some .concat := rfl
  have hlength : Writes ctx (.length (.identifier (Text.lit "title")) .greater 3)
      (Text.lit "title.length > 3") := .length rfl htitle hspace hspace hthree
  have hrange : WritesRange 0 (some 2) (Text.lit "0, 2") :=
    .between hnone hzero hnone hspace htwo hnone
  have hpart : Writes ctx (.substring (.identifier (Text.lit "title")) 0 (some 2))
      (Text.lit "title.substring(0, 2)") := .substring rfl htitle hrange
  have hmark : Writes ctx (.literal ['!']) (Text.lit " '!'") :=
    .padded hspace hnone (.literal (q := '\'') rfl ['!'])
  have hargs : ∀ a ∈ [(Expr.substring (.identifier (Text.lit "title")) 0 (some 2),
      Text.lit "title.substring(0, 2)"), (Expr.literal ['!'], Text.lit " '!'")],
      Writes ctx a.1 a.2 := List.forall_mem_cons.mpr ⟨hpart, List.forall_mem_singleton.mpr hmark⟩
  have hcall : Writes ctx _ (Text.lit " concat(title.substring(0, 2), '!') ") :=
    .padded hspace hspace (.call hconcat hnone hnone hargs)
  have htail : Writes ctx (.identifier (Text.lit "title")) (Text.lit " title") :=
    .padded hspace hnone htitle
  have hchoice : Writes ctx _ source := .choice hspace hspace hlength hcall htail
  refine ⟨hcheck, ?_⟩
  rw [evaluate_eq_meaning hnames hbuilt hchoice (by decide) hcheck]
  rfl

end CopyFormat.Script
