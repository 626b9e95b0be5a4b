import CopyFormat.Script.Operation

/-!
What the names in a script mean: values, and operations that can be called.
-/

namespace CopyFormat.Script

inductive Binding
  | value (v : Value)
  | operation (op : Operation)

/-- The meanings of names, and the moment at which operations are called. -/
structure Context where
  binding : Text → Option Binding
  now : Date.Moment

namespace Context

def empty (now : Date.Moment) : Context := { binding := fun _ => none, now }

def operations (now : Date.Moment) : Context :=
  { binding := fun name => (Operation.named? name).map .operation, now }

/-- Lets a name mean a value, whatever it has meant before. -/
def set (ctx : Context) (name : Text) (v : Value) : Context :=
  { ctx with binding := fun n => if n = name then some (.value v) else ctx.binding n }

def operation? (ctx : Context) (name : Text) : Option Operation :=
  match ctx.binding name with
  | some (.operation op) => some op
  | _ => none

def contains (ctx : Context) (name : Text) : Bool := (ctx.binding name).isSome

end Context

end CopyFormat.Script
