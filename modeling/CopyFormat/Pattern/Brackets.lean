import CopyFormat.Pattern.Escape

/-!
Reading a character class in brackets: items, ranges, nested classes and the operations between
them.

The classes that are open are kept in a list of frames, innermost first, so that reading is one
loop over the text. Every round takes at least one character, so the length of the text bounds
the number of rounds.
-/

namespace CopyFormat.Pattern

/-- What waits for the class that is being read: the items before an inner class, or the left
operand of an operation. -/
inductive ClassFrame
  | opened (before : List ClassSet) (negated : Bool)
  | operand (op : ClassOperator) (left : ClassSet)

/-- Reads a class such as `[:alpha:]` behind its bracket; anything else is left to be read as a
nested class. -/
def readNamedClass? : Text → Option (ClassSet × Text)
  | ':' :: r =>
      let negated := r.head? == some '^'
      let body := if negated then r.drop 1 else r
      let name := body.takeWhile (· ≠ ':')
      match body.dropWhile (· ≠ ':') with
      | ':' :: ']' :: rest =>
          (NamedClass.ofName? name).map fun c => (.named negated c, rest)
      | _ => none
  | _ => none

/-- Reads the start of a class behind its bracket: whether it is negated, and hyphens or a
closing bracket in front, which stand for themselves. The items come in reverse. -/
def readClassStart (spacing : Bool) (t : Text) :
    Except Fault (Bool × List ClassSet × Text) :=
  let first := skip spacing t
  let negated := first.head? == some '^'
  let body := if negated then skip spacing (first.drop 1) else first
  let hyphens := takeSpaced spacing (· == '-') body
  let items := hyphens.1.map fun c => ClassSet.literal { char := c }
  match hyphens.2 with
  | [] => .error .classUnclosed
  | ']' :: r =>
      if items.isEmpty then
        match skip spacing r with
        | [] => .error .classUnclosed
        | rest => .ok (negated, [.literal { char := ']' }], rest)
      else .ok (negated, items, ']' :: r)
  | rest => .ok (negated, items, rest)

/-- Reads one end of a range, or an item by itself. -/
def readClassItem (spacing : Bool) : Text → Except Fault (Primitive × Text)
  | [] => .error .classUnclosed
  | '\\' :: r => readEscape spacing r
  | c :: r => .ok (.literal { char := c }, r)

/-- A primitive as an item of a class; assertions are none. -/
def Primitive.toItem : Primitive → Except Fault ClassSet
  | .literal l => .ok (.literal l)
  | .short n c => .ok (.short n c)
  | .property n p => .ok (.property n p)
  | .assertion _ => .error .classEscapeInvalid

/-- A primitive as the end of a range; only characters are. -/
def Primitive.toLiteral : Primitive → Except Fault Literal
  | .literal l => .ok l
  | _ => .error .classRangeLiteral

/-- The character that comes next; in the spacing mode blanks are passed over, and a comment
sign with the blanks behind it. -/
def peekSpaced (spacing : Bool) (t : Text) : Option Char :=
  if spacing then
    let bare := t.dropWhile isBlank
    let target := if bare.head? == some '#' then (bare.drop 1).dropWhile isBlank else bare
    target.head? <|> t.head?
  else t.head?

/-- Reads an item or a range. A hyphen before a closing bracket or another hyphen makes no
range. -/
def readClassRange (spacing : Bool) (t : Text) : Except Fault (ClassSet × Text) := do
  let (low, r) ← readClassItem spacing t
  match skip spacing r with
  | [] => .error .classUnclosed
  | '-' :: after =>
      let next := peekSpaced spacing after
      if next == some ']' || next == some '-' then
        return (← low.toItem, '-' :: after)
      else
        match skip spacing after with
        | [] => .error .classUnclosed
        | r' =>
            let (high, rest) ← readClassItem spacing r'
            let first ← low.toLiteral
            let last ← high.toLiteral
            if first.char ≤ last.char then return (.range first last, rest)
            else .error .classRangeInvalid
  | rest => return (← low.toItem, rest)

/-- The operand that is complete, joined with the left operand that waits for it. -/
def closeOperand (right : ClassSet) : List ClassFrame → ClassSet × List ClassFrame
  | .operand op left :: frames => (.operation op left right, frames)
  | frames => (right, frames)

/-- The operator that the text starts with. -/
def classOperator? : Text → Option (ClassOperator × Text)
  | '&' :: '&' :: r => some (.intersection, r)
  | '-' :: '-' :: r => some (.difference, r)
  | '~' :: '~' :: r => some (.symmetricDifference, r)
  | _ => none

/-- Reads on inside brackets. The items of the innermost class come in reverse. -/
def readClassBody (spacing : Bool) : Nat → List ClassFrame → List ClassSet → Text →
    Except Fault (Node × Text)
  | 0, _, _, _ => .error .classUnclosed
  | fuel + 1, frames, items, t =>
      match skip spacing t with
      | [] => .error .classUnclosed
      | '[' :: r =>
          match readNamedClass? r with
          | some (c, rest) => readClassBody spacing fuel frames (c :: items) rest
          | none => do
              let (negated, first, rest) ← readClassStart spacing r
              readClassBody spacing fuel (.opened items negated :: frames) first rest
      | ']' :: r =>
          match closeOperand (.ofItems items.reverse) frames with
          | (set, [.opened _ negated]) => .ok (.bracketed negated set, r)
          | (set, .opened before negated :: outer) =>
              readClassBody spacing fuel outer (.bracketed negated set :: before) r
          | _ => .error .classUnclosed
      | c :: r =>
          match classOperator? (c :: r) with
          | some (op, rest) =>
              let (left, outer) := closeOperand (.ofItems items.reverse) frames
              readClassBody spacing fuel (.operand op left :: outer) [] rest
          | none => do
              let (item, rest) ← readClassRange spacing (c :: r)
              readClassBody spacing fuel frames (item :: items) rest

def readClass (spacing : Bool) (t : Text) : Except Fault (Node × Text) := do
  let (negated, items, rest) ← readClassStart spacing t
  readClassBody spacing (rest.length + 1) [.opened [] negated] items rest

end CopyFormat.Pattern
