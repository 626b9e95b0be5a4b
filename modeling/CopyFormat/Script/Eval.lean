import CopyFormat.Script.Limits
import CopyFormat.Script.Shape

/-!
Evaluation. A script is checked, and then evaluated by its shape; the parts of a shape are
evaluated in the same way one level deeper, and the number of levels is limited.
-/

namespace CopyFormat.Script

/-- The part of a text between two places. Places behind the end count as the end, and two in the
wrong order are swapped. -/
def substring (t : Text) (start : Nat) (stop : Option Nat) : Text :=
  let a := min start t.length
  let b := min (stop.getD t.length) t.length
  (t.take (max a b)).drop (min a b)

/-- Whether a value includes a text: a list as an item, any other value as a part of its text. -/
def Value.includes (v : Value) (needle : Text) : Bool :=
  match v with
  | .list items => items.contains needle
  | v => Text.occursIn needle v.display

section

variable (ctx : Context) (eval : Text → Except EvalFault Value)

/-- Whether the length of a target compares as asked. -/
def compareLength (target : Text) (comparison : Comparison) (bound : Nat) :
    Except EvalFault Bool := do
  let n ← (← eval target).length
  return comparison.holds n bound

/-- Whether a condition holds. Only comparisons of a length and tests of inclusion can. -/
def holds (condition : Text) : Except EvalFault Bool :=
  if Shape.isCompound condition then .ok false
  else
    match Shape.length? ctx condition, Shape.includes? condition with
    | some (.length target comparison bound), _ => compareLength eval target comparison bound
    | _, some (target, needle) =>
        if Shape.isOperand ctx target && Shape.isOperand ctx needle then do
          let v ← eval target
          return v.includes (← eval needle).display
        else .ok false
    | _, none => .ok false

/-- The value of a shape, whose parts `eval` evaluates. -/
def Shape.value : Shape → Except EvalFault Value
  | .choice condition accepted refused => do
      if ← holds ctx eval condition then eval accepted else eval refused
  | .length target comparison bound =>
      (compareLength eval target comparison bound).map .boolean
  | .substring target start stop => do
      return .text (Script.substring (← eval target).display start stop)
  | .identifier name =>
      match ctx.binding name with
      | some (.value v) => .ok v
      | some (.operation _) => .error (.notCalled name)
      | none => .error (.unknownName name)
  | .call name receiver arguments =>
      match ctx.operation? name with
      | none => .error (.unknownOperation name)
      | some op => do op.call ctx.now (← (receiver.toList ++ arguments).mapM eval)
  | .literal t => .ok (.text t)
  | .arithmetic source =>
      match Arithmetic.eval Arithmetic.floats source with
      | .ok x => .ok (.number x)
      | .error f => .error (.arithmetic f)

end

/-- The value of a script, whose parts lie at most `levels - 1` levels below it. `limit` is the
number of levels that is told when they do not suffice. -/
def evalAt (ctx : Context) (limit : Nat) : Nat → Text → Except EvalFault Value
  | 0, _ => .error (.nestedTooDeep limit)
  | levels + 1, source =>
      match Shape.of? ctx (Text.trim source) with
      | some shape => shape.value ctx (evalAt ctx limit levels)
      | none => .ok (.text (Text.trim source))

def evaluate (limits : Limits) (ctx : Context) (source : Text) : Except EvalError Value := do
  check limits.deniedWords source
  (evalAt ctx limits.depth (limits.depth + 1) source).mapError .evaluation

end CopyFormat.Script
