import CopyFormat.Script.Context
import CopyFormat.Script.Guard
import CopyFormat.Script.Scan

/-!
The shapes that a script can have, and how a text is recognised to have one. The shapes are
tried in a fixed order and the first that fits counts; a text that fits none stands for itself.
-/

namespace CopyFormat.Script

inductive Comparison
  | greater
  | less
  | greaterEqual
  | lessEqual
  | equal
  | notEqual
  deriving DecidableEq, Repr

namespace Comparison

/-- The spellings, longer ones before those that they start with. -/
def table : List (String × Comparison) :=
  [("===", equal), ("!==", notEqual), (">=", greaterEqual), ("<=", lessEqual), (">", greater),
    ("<", less)]

/-- The comparison that a text starts with, and what follows it. -/
def read? (t : Text) : Option (Comparison × Text) :=
  table.findSome? fun p => (Text.after? p.1.toList t).map fun r => (p.2, r)

def holds : Comparison → Nat → Nat → Bool
  | .greater, a, b => b < a
  | .less, a, b => a < b
  | .greaterEqual, a, b => b ≤ a
  | .lessEqual, a, b => a ≤ b
  | .equal, a, b => a = b
  | .notEqual, a, b => a ≠ b

end Comparison

inductive Shape
  | choice (condition accepted refused : Text)
  | length (target : Text) (comparison : Comparison) (bound : Nat)
  | substring (target : Text) (start : Nat) (stop : Option Nat)
  | identifier (name : Text)
  | call (name : Text) (receiver : Option Text) (arguments : List Text)
  | literal (t : Text)
  | arithmetic (source : Text)
  deriving DecidableEq, Repr

namespace Shape

/-- The greatest number of digits of an index. -/
def maxDigits : Nat := 15

/-- The index that a text starts with, and what follows its digits. -/
def index? (t : Text) : Option (Nat × Text) :=
  let digits := t.takeWhile Char.isDigit
  if digits.isEmpty || maxDigits < digits.length then none
  else some (Text.numeral 10 digits, t.dropWhile Char.isDigit)

/-- A choice `if (condition) ? accepted : refused`. -/
def choice? (s : Text) : Option Shape := do
  let rest := Text.trimStart (← Text.after? ['i', 'f'] s)
  if rest.head? != some '(' then none
  let close ← matchingClose rest
  let condition := (rest.take close).drop 1
  let branches ← Text.after? ['?'] (Text.trimStart (rest.drop (close + 1)))
  let colon ← branchColon branches
  return .choice (Text.trim condition) (Text.trim (branches.take colon))
    (Text.trim (branches.drop (colon + 1)))

/-- The comparison and bound behind a `.length`. -/
def lengthTail? (t : Text) : Option (Comparison × Nat) := do
  let (comparison, r) ← Comparison.read? (Text.trimStart t)
  let (bound, r) ← index? (Text.trimStart r)
  if r.isEmpty then return (comparison, bound) else none

/-- A comparison `target.length > bound`, whatever the target is. -/
def lengthForm? (s : Text) : Option (Text × Comparison × Nat) := do
  let (target, tail) ←
    Text.lastCut? (Text.lit ".length") (fun t => (lengthTail? t).isSome) s
  if target.isEmpty then none
  return (Text.trim target, ← lengthTail? tail)

/-- The indices behind a `.substring(`. -/
def substringTail? (t : Text) : Option (Nat × Option Nat) := do
  let (start, r) ← index? (Text.trimStart t)
  match Text.trimStart r with
  | [')'] => return (start, none)
  | ',' :: r =>
      let (stop, r) ← index? (Text.trimStart r)
      if Text.trimStart r = [')'] then return (start, some stop) else none
  | _ => none

/-- A part `target.substring(start, stop)`. -/
def substring? (s : Text) : Option Shape := do
  let (target, tail) ←
    Text.lastCut? (Text.lit ".substring(") (fun t => (substringTail? t).isSome) s
  if target.isEmpty then none
  let (start, stop) ← substringTail? tail
  return .substring (Text.trim target) start stop

def identifier? (ctx : Context) (s : Text) : Option Shape :=
  if ctx.contains s then some (.identifier s) else none

def isName : Text → Bool
  | [] => false
  | c :: r => isNameStart c && r.all isNameChar

/-- What stands before and behind the last dot. -/
def lastDot? (t : Text) : Option (Text × Text) := Text.lastCut? ['.'] (fun _ => true) t

/-- The receiver, if there is one, and the name that stand before the parentheses of a call. -/
def callee (head : Text) : Option Text × Text :=
  match lastDot? head with
  | some (before, behind) => (some (Text.trim before), Text.trim behind)
  | none => (none, Text.trim head)

/-- A call `name(arguments)` or `receiver.name(arguments)` of an operation. -/
def call? (ctx : Context) (s : Text) : Option Shape := do
  let place ← trailingOpen s
  let (receiver, name) := callee (s.take place)
  if !isName name || (ctx.operation? name).isNone then none
  if receiver = some [] then none
  let inner := Text.trim (s.drop (place + 1)).dropLast
  let arguments := if inner.isEmpty then [] else (splitTop ',' inner).map Text.trim
  return .call name receiver arguments

def literal? (s : Text) : Option Shape := (unquote? s).map .literal

def arithmetic? (s : Text) : Option Shape :=
  if Arithmetic.isArithmetic s then some (.arithmetic s) else none

/-- The shape of a text that can stand as an operand of a condition. -/
def operand? (ctx : Context) (s : Text) : Option Shape :=
  substring? s <|> identifier? ctx s <|> call? ctx s <|> literal? s <|> arithmetic? s

/-- Whether a text is put together by logic, for which there is no shape: it starts with `!`, or
has an `&` or `|` at the top level. -/
def isCompound (s : Text) : Bool :=
  s.head? == some '!' || (findTop '&' s).isSome || (findTop '|' s).isSome

def isOperand (ctx : Context) (s : Text) : Bool :=
  !isCompound (Text.trim s) && (operand? ctx (Text.trim s)).isSome

/-- A comparison of the length of an operand. -/
def length? (ctx : Context) (s : Text) : Option Shape := do
  let (target, comparison, bound) ← lengthForm? s
  if isOperand ctx target then return .length target comparison bound else none

/-- The shape of a text, if it has one. -/
def of? (ctx : Context) (s : Text) : Option Shape :=
  choice? s <|> length? ctx s <|> operand? ctx s

/-- The parts of a condition `target.includes(needle)`. -/
def includes? (s : Text) : Option (Text × Text) := do
  let (target, tail) ←
    Text.lastCut? (Text.lit ".includes(")
      (fun t => decide (2 ≤ t.length) && t.getLast? == some ')') s
  if target.isEmpty then none
  return (target, tail.dropLast)

end Shape

end CopyFormat.Script
