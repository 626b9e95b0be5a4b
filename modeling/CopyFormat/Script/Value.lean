import CopyFormat.Decimal.Layout
import CopyFormat.Decimal.Reader
import CopyFormat.Script.Error
import CopyFormat.Text.Blank

/-!
The values of scripts.
-/

namespace CopyFormat.Script

/-- A value: a text, a number, a truth value, or a list of texts. -/
inductive Value
  | text (t : Text)
  | number (x : Float)
  | boolean (b : Bool)
  | list (items : List Text)

namespace Value

instance : Inhabited Value := ⟨.text []⟩

/-- What a kind of value is called. -/
def kind : Value → Text
  | .text _ => Text.lit "string"
  | .number _ => Text.lit "number"
  | .boolean _ => Text.lit "boolean"
  | .list _ => Text.lit "list"

/-- The text of a value; the items of a list have commas between them. -/
def display : Value → Text
  | .text t => t
  | .number x => Decimal.scriptLayout.number x
  | .boolean b => Text.lit (if b then "true" else "false")
  | .list items => Text.join [','] items

/-- How many characters a text has, or how many items a list. -/
def length : Value → Except EvalFault Nat
  | .text t => .ok t.length
  | .list items => .ok items.length
  | v => .error (.noLength v.kind)

/-- The number that a value stands for: a text is read, and a blank one is zero. -/
def toNumber : Value → Float
  | .number x => x
  | .boolean b => if b then 1 else 0
  | .text t =>
      let t := Text.trim t
      if t.isEmpty then 0 else (Decimal.ofText? t).getD (0 / 0)
  | .list _ => 0 / 0

/-- The items of a list, or the characters of the text of any other value. -/
def items : Value → List Text
  | .list items => items
  | v => v.display.map fun c => [c]

end Value

end CopyFormat.Script
