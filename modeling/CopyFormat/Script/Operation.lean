import CopyFormat.Date.Format
import CopyFormat.Script.Value
import CopyFormat.Text.Case

/-!
The operations that scripts can call. Each is a function of its arguments and, for the two that
ask for it, of the present moment.
-/

namespace CopyFormat.Script

open CopyFormat.Date (Moment)

inductive Operation
  | upper
  | lower
  | trim
  | concat
  | replaceAll
  | startsWith
  | endsWith
  | split
  | join
  | first
  | last
  | item
  | count
  | round
  | floor
  | ceil
  | abs
  | min
  | max
  | today
  | formatDate
  deriving DecidableEq, Repr

namespace Operation

/-- The names by which operations are called. -/
def table : List (String × Operation) :=
  [("upper", upper), ("toUpperCase", upper), ("lower", lower), ("toLowerCase", lower),
    ("trim", trim), ("concat", concat), ("replaceAll", replaceAll), ("startsWith", startsWith),
    ("endsWith", endsWith), ("split", split), ("join", join), ("first", first), ("last", last),
    ("at", item), ("count", count), ("round", round), ("floor", floor), ("ceil", ceil),
    ("abs", abs), ("min", min), ("max", max), ("today", today), ("formatDate", formatDate)]

def named? (name : Text) : Option Operation :=
  (table.find? fun p => p.1.toList = name).map Prod.snd

/-- The name by which an operation is told of, the first one in the table. -/
def name (op : Operation) : Text :=
  ((table.find? fun p => p.2 = op).map fun p => p.1.toList).getD []

/-- How many arguments an operation takes. -/
def arity : Operation → Arity
  | .concat => ⟨0, none⟩
  | .min | .max => ⟨1, none⟩
  | .today => ⟨0, some 0⟩
  | .join => ⟨1, some 2⟩
  | .replaceAll => ⟨3, some 3⟩
  | .startsWith | .endsWith | .split | .item => ⟨2, some 2⟩
  | _ => ⟨1, some 1⟩

/-- The parts of a text between the occurrences of a separator; an empty one stands between every
two characters. -/
def splitText (t sep : Text) : List Text :=
  if sep.isEmpty then t.map fun c => [c] else Text.splitOn t sep

/-- The item that a number points at, cut to a whole one; a negative number counts from the
end. -/
def itemAt (items : List Text) (x : Float) : Text :=
  if x.isFinite then
    let n := x.toInt64.toInt
    let place := if n < 0 then items.length + n else n
    if place < 0 then [] else items[place.toNat]?.getD []
  else []

/-- The number among several that `pick` prefers; one that is not a number spoils all. -/
def pickNumber (pick : Float → Float → Float) (x : Float) (vs : List Value) : Float :=
  vs.foldl
    (fun acc v =>
      let y := v.toNumber
      if acc.isNaN || y.isNaN then 0 / 0 else pick acc y) x

/-- Calls an operation at the moment `now`. -/
def call (now : Moment) : Operation → List Value → Except EvalFault Value
  | .upper, [v] => .ok (.text (Text.upper v.display))
  | .lower, [v] => .ok (.text (Text.lower v.display))
  | .trim, [v] => .ok (.text (Text.trim v.display))
  | .concat, vs => .ok (.text (vs.flatMap Value.display))
  | .replaceAll, [v, old, new] =>
      if old.display.isEmpty then .ok v
      else .ok (.text (Text.replaceAll v.display old.display new.display))
  | .startsWith, [v, w] => .ok (.boolean (w.display.isPrefixOf v.display))
  | .endsWith, [v, w] => .ok (.boolean (w.display.isSuffixOf v.display))
  | .split, [v, sep] => .ok (.list (splitText v.display sep.display))
  | .join, [v] => .ok (.text (joinWith [','] v))
  | .join, [v, sep] => .ok (.text (joinWith sep.display v))
  | .first, [v] => .ok (.text (v.items.head?.getD []))
  | .last, [v] => .ok (.text (v.items.getLast?.getD []))
  | .item, [v, place] => .ok (.text (itemAt v.items place.toNumber))
  | .count, [v] => .ok (.number v.items.length.toFloat)
  | .round, [v] => .ok (.number (v.toNumber + 0.5).floor)
  | .floor, [v] => .ok (.number v.toNumber.floor)
  | .ceil, [v] => .ok (.number v.toNumber.ceil)
  | .abs, [v] => .ok (.number v.toNumber.abs)
  | .min, v :: vs => .ok (.number (pickNumber (fun a b => if b < a then b else a) v.toNumber vs))
  | .max, v :: vs => .ok (.number (pickNumber (fun a b => if a < b then b else a) v.toNumber vs))
  | .today, [] => .ok (.text now.iso)
  | .formatDate, [v] =>
      match Date.format? v.display now with
      | some t => .ok (.text t)
      | none => .error (.dateFormat v.display)
  | op, vs => .error (.argumentCount op.name op.arity vs.length)
where
  /-- The items of a list with a separator between them; another value is its text. -/
  joinWith (sep : Text) : Value → Text
    | .list items => Text.join sep items
    | v => v.display

end Operation

end CopyFormat.Script
