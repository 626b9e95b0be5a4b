import CopyFormat.Json.Value

/-!
Decoding JSON values into the records of the program.

A record is written as an object, whose unknown fields count for nothing, or as an array of its
fields in order, where the last ones may be missing if they have a default. A field that is there
must have the right type; `null` is no absent field.
-/

namespace CopyFormat.Json

abbrev Decoder (α : Type) := Json → Option α

namespace Decoder

def text : Decoder Text
  | .text t => some t
  | _ => none

/-- A natural number of 64 bits; a number with a point or an exponent is none. -/
def natural : Decoder Nat
  | .number (.whole n) => if 0 ≤ n ∧ n ≤ maxWhole then some n.toNat else none
  | _ => none

def list {α : Type} (item : Decoder α) : Decoder (List α)
  | .array items => items.mapM item
  | _ => none

end Decoder

/-- The fields of a record, in order: how each stands in the JSON value, if it does. -/
def record? (keys : List Text) : Json → Option (List (Option Json))
  | .object fields => some (keys.map fun k => field? k fields)
  | .array items =>
      if items.length ≤ keys.length then
        some (items.map some ++ List.replicate (keys.length - items.length) none)
      else none
  | _ => none

def required {α : Type} (d : Decoder α) (v : Option Json) : Option α := v >>= d

def optional {α : Type} (d : Decoder α) (default : α) : Option Json → Option α
  | none => some default
  | some v => d v

end CopyFormat.Json
