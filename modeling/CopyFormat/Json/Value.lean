import CopyFormat.Text.Basic

/-!
JSON values. The fields of an object are kept in the order of their keys, each key once, so that
an object has one form.
-/

namespace CopyFormat

/-- The order of texts by code points, which is also that of their bytes in UTF-8. -/
def Text.order : Text → Text → Ordering
  | [], [] => .eq
  | [], _ :: _ => .lt
  | _ :: _, [] => .gt
  | a :: s, b :: t => if a = b then Text.order s t else if a.toNat < b.toNat then .lt else .gt

/-- A number: whole within 64 bits, or a floating-point number. -/
inductive Json.Number
  | whole (n : Int)
  | real (x : Float)

inductive Json
  | null
  | bool (b : Bool)
  | number (n : Json.Number)
  | text (t : Text)
  | array (items : List Json)
  | object (fields : List (Text × Json))

namespace Json

instance : Inhabited Json := ⟨.null⟩

abbrev Fields := List (Text × Json)

/-- Sets a field, in place of the one that has this key. -/
def setField (key : Text) (value : Json) : Fields → Fields
  | [] => [(key, value)]
  | (k, v) :: r =>
      match Text.order key k with
      | .lt => (key, value) :: (k, v) :: r
      | .eq => (key, value) :: r
      | .gt => (k, v) :: setField key value r

def field? (key : Text) (fields : Fields) : Option Json := fields.lookup key

def overlay (base : Fields) (newer : Fields) : Fields :=
  newer.foldl (fun acc p => setField p.1 p.2 acc) base

/-- An object with the given fields, in whatever order they come; of two with one key the later
counts. -/
def ofFields (fields : Fields) : Json := .object (overlay [] fields)

/-- The least and the greatest whole numbers that are kept as such. -/
def minWhole : Int := -0x8000000000000000

def maxWhole : Int := 0xFFFFFFFFFFFFFFFF

end Json

end CopyFormat
