import Mathlib.Logic.Relation
import CopyFormat.Proofs.Script.Parts

/-!
How far the check of a script reaches. The check looks at the whole script once, before the
evaluation starts; every text that is evaluated on the way has passed it then.
-/

namespace CopyFormat.Script

variable {ctx : Context} {extra : List Text} {limit levels : Nat} {s t u : Text}
  {answer : Text → Except EvalFault Value}

/-- The second text is a part of the first one, so that evaluating the first can evaluate it. -/
def IsPart (ctx : Context) (s t : Text) : Prop :=
  ∃ shape, Shape.of? ctx (Text.trim s) = some shape ∧ t ∈ shape.parts

/-- The texts that evaluating a script can evaluate, however deep they lie. -/
def Subscript (ctx : Context) : Text → Text → Prop := Relation.ReflTransGen (IsPart ctx)

theorem IsPart.excerpt (h : IsPart ctx s t) : Excerpt s t := by
  obtain ⟨shape, hshape, ht⟩ := h
  exact (excerpt_trim s).trans (Shape.excerpt_of_mem_parts hshape ht)

theorem Subscript.excerpt (h : Subscript ctx s t) : Excerpt s t := by
  induction h with
  | refl => exact .refl _ _
  | tail _ hpart ih => exact ih.trans hpart.excerpt

/-- What `eval` makes of a text that is checked first. For a refused one there is another answer. -/
def screen (extra : List Text) (answer eval : Text → Except EvalFault Value) (t : Text) :
    Except EvalFault Value :=
  match check extra t with
  | .ok () => eval t
  | .error _ => answer t

/-- The value of a script whose subscripts are all checked before they are evaluated, the script
itself included. -/
def evalScreened (extra : List Text) (answer : Text → Except EvalFault Value) (ctx : Context)
    (limit : Nat) : Nat → Text → Except EvalFault Value
  | 0 => screen extra answer fun _ => .error (.nestedTooDeep limit)
  | levels + 1 => screen extra answer fun source =>
      match Shape.of? ctx (Text.trim source) with
      | some shape => shape.value ctx (evalScreened extra answer ctx limit levels)
      | none => .ok (.text (Text.trim source))

theorem screen_of_check {eval : Text → Except EvalFault Value} (h : check extra t = .ok ()) :
    screen extra answer eval t = eval t := by
  rw [screen, h]

theorem evalScreened_eq (h : ∀ t, Subscript ctx s t → check extra t = .ok ()) :
    evalScreened extra answer ctx limit levels s = evalAt ctx limit levels s := by
  induction levels generalizing s with
  | zero => exact screen_of_check (h s .refl)
  | succ levels ih =>
      rw [evalScreened, screen_of_check (h s .refl), evalAt]
      cases hshape : Shape.of? ctx (Text.trim s) with
      | none => rfl
      | some shape =>
          refine Shape.value_congr fun t ht => ih fun u hu => h u ?_
          exact .head ⟨shape, hshape, ht⟩ hu

/-- The check of a script covers all that is evaluated with it: no subscript would be refused, and
a check before every single text, whatever it answers for refused ones, changes no value. -/
theorem check_covers_subscripts (hcheck : check extra s = .ok ()) (ctx : Context) :
    (∀ t, Subscript ctx s t → check extra t = .ok ()) ∧
      ∀ answer limit levels,
        evalScreened extra answer ctx limit levels s = evalAt ctx limit levels s := by
  have hsubscripts : ∀ t, Subscript ctx s t → check extra t = .ok () :=
    fun t ht => check_excerpt ht.excerpt hcheck
  exact ⟨hsubscripts, fun _ _ _ => evalScreened_eq hsubscripts⟩

/-- The argument of a call in a branch of a choice. -/
theorem check_covers_argument :
    let source := Text.lit "if (title.includes('x')) ? upper(title) : concat(path, '/new')"
    let ctx := (Context.operations default).set (Text.lit "title") (.text (Text.lit "abc"))
    let extra := [Text.lit "secret"]
    check extra source = .ok () ∧ Subscript ctx source (Text.lit "path") ∧
      check extra (Text.lit "path") = .ok () ∧
        evalScreened extra (fun t => .error (.unknownName t)) ctx 10 11 source =
          evalAt ctx 10 11 source := by
  intro source ctx extra
  have hcheck : check extra source = .ok () := by decide +kernel
  have hbranch : IsPart ctx source (Text.lit "concat(path, '/new')") :=
    ⟨.choice (Text.lit "title.includes('x')") (Text.lit "upper(title)")
      (Text.lit "concat(path, '/new')"), by decide +kernel, by decide +kernel⟩
  have hargument : IsPart ctx (Text.lit "concat(path, '/new')") (Text.lit "path") :=
    ⟨.call (Text.lit "concat") none [Text.lit "path", Text.lit "'/new'"], by decide +kernel,
      by decide +kernel⟩
  have hpath : Subscript ctx source (Text.lit "path") := .head hbranch (.single hargument)
  obtain ⟨hsubscripts, hscreened⟩ := check_covers_subscripts hcheck ctx
  exact ⟨hcheck, hpath, hsubscripts _ hpath, hscreened _ _ _⟩

end CopyFormat.Script
