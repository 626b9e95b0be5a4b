import CopyFormat.Pattern.Expr
import CopyFormat.Pattern.Syntax
import CopyFormat.Unicode.Property

/-!
From the tree of a regular expression to its meaning: switches are worked out, classes become
sets of characters, and what the switches forbid is refused.
-/

namespace CopyFormat.Pattern

open CopyFormat.Unicode

/-- The switches that are in force at a place of the pattern. -/
structure Modes where
  ignoreCase : Bool := false
  multiLine : Bool := false
  dotAll : Bool := false
  swapGreed : Bool := false
  unicode : Bool := true
  crlf : Bool := false
  deriving DecidableEq, Repr, Inhabited

/-- The modes after a group of switches. -/
def Modes.apply (m : Modes) (s : SwitchSet) : Modes :=
  { ignoreCase := s.apply .ignoreCase m.ignoreCase
    multiLine := s.apply .multiLine m.multiLine
    dotAll := s.apply .dotAll m.dotAll
    swapGreed := s.apply .swapGreed m.swapGreed
    unicode := s.apply .unicode m.unicode
    crlf := s.apply .crlf m.crlf }

namespace Modes

/-- The ASCII letters, digits and so on that a short class means without Unicode. -/
def asciiShort : ShortClass → CharSet
  | .digit => .ofIntervals [(0x30, 0x39)]
  | .space => .ofIntervals [(0x09, 0x0D), (0x20, 0x20)]
  | .word => .ofIntervals [(0x30, 0x39), (0x41, 0x5A), (0x5F, 0x5F), (0x61, 0x7A)]

def unicodeShort : ShortClass → CharSet
  | .digit => digitSet
  | .space => Binary.whiteSpace
  | .word => wordSet

def named : NamedClass → CharSet
  | .alnum => .ofIntervals [(0x30, 0x39), (0x41, 0x5A), (0x61, 0x7A)]
  | .alpha => .ofIntervals [(0x41, 0x5A), (0x61, 0x7A)]
  | .ascii => .ofIntervals [(0x00, 0x7F)]
  | .blank => .ofIntervals [(0x09, 0x09), (0x20, 0x20)]
  | .cntrl => .ofIntervals [(0x00, 0x1F), (0x7F, 0x7F)]
  | .digit => asciiShort .digit
  | .graph => .ofIntervals [(0x21, 0x7E)]
  | .lower => .ofIntervals [(0x61, 0x7A)]
  | .print => .ofIntervals [(0x20, 0x7E)]
  | .punct => .ofIntervals [(0x21, 0x2F), (0x3A, 0x40), (0x5B, 0x60), (0x7B, 0x7E)]
  | .space => asciiShort .space
  | .upper => .ofIntervals [(0x41, 0x5A)]
  | .word => asciiShort .word
  | .xdigit => .ofIntervals [(0x30, 0x39), (0x41, 0x46), (0x61, 0x66)]

/-- A set with the other case of its ASCII letters. -/
def closeAscii (s : CharSet) : CharSet :=
  let letters := (List.range 26).map fun i => (Char.ofNat (0x41 + i), Char.ofNat (0x61 + i))
  let hit := letters.filter fun p => s.contains p.1 || s.contains p.2
  s.union (.ofChars (hit.flatMap fun p => [p.1, p.2]))

/-- A set with what counts as the same when case is ignored, if it is. -/
def fold (m : Modes) (s : CharSet) : CharSet :=
  if !m.ignoreCase then s else if m.unicode then CaseFolding.close s else closeAscii s

/-- A set folded and then negated. Without Unicode a negated set would match single bytes. -/
def foldAndNegate (m : Modes) (negated : Bool) (s : CharSet) : Except Fault CharSet :=
  if !negated then .ok (m.fold s)
  else if m.unicode then .ok (m.fold s).complement
  else .error .invalidUtf8

/-- A short class. -/
def short (m : Modes) (negated : Bool) (c : ShortClass) : Except Fault CharSet :=
  if m.unicode then
    .ok (if negated then (unicodeShort c).complement else unicodeShort c)
  else if negated then .error .invalidUtf8
  else .ok (asciiShort c)

/-- The set that a property expression names. -/
def property (m : Modes) (negated : Bool) (p : PropertyName) : Except Fault CharSet :=
  if !m.unicode then .error .unicodeNotAllowed
  else
    let found :=
      match p with
      | .single n => Property.named n
      | .valued n v => Property.withValue n v
    match found with
    | .ok s => m.foldAndNegate negated s
    | .error .propertyNotFound => .error .propertyNotFound
    | .error .valueNotFound => .error .propertyValueNotFound

/-- A written character. Without Unicode, `\x` and two digits mean a byte. -/
def character (m : Modes) (l : Literal) : Except Fault Char :=
  if !m.unicode && l.byte && 0x7F < l.char.toNat then .error .invalidUtf8 else .ok l.char

/-- A written character inside brackets, where without Unicode only ASCII may stand. -/
def member (m : Modes) (l : Literal) : Except Fault Char := do
  let c ← m.character l
  if !m.unicode && 0x7F < c.toNat then .error .unicodeNotAllowed else .ok c

mutual

/-- The set that stands inside brackets. -/
def classSet (m : Modes) : ClassSet → Except Fault CharSet
  | .literal l => do return .ofChar (← m.member l)
  | .range a b => do
      let first ← m.member a
      let last ← m.member b
      return .ofRange first last
  | .short n c => m.short n c
  | .named n c => m.foldAndNegate n (named c)
  | .property n p => m.property n p
  | .bracketed n inner => do m.foldAndNegate n (← m.classSet inner)
  | .union items => do return .unions (← m.classSets items)
  | .operation op left right => do
      let l := m.fold (← m.classSet left)
      let r := m.fold (← m.classSet right)
      match op with
      | .intersection => return l.inter r
      | .difference => return l.diff r
      | .symmetricDifference => return l.symmDiff r

def classSets (m : Modes) : List ClassSet → Except Fault (List CharSet)
  | [] => .ok []
  | s :: r => do return (← m.classSet s) :: (← m.classSets r)

end

def dot (m : Modes) : Except Fault Expr :=
  if !m.unicode then .error .invalidUtf8
  else if m.dotAll then .ok (.set .all)
  else if m.crlf then .ok (.set (CharSet.ofChars ['\n', '\r']).complement)
  else .ok (.set (CharSet.ofChar '\n').complement)

def assertion (m : Modes) : Assertion → Look
  | .lineStart => if m.multiLine then .lineStart m.crlf else .start
  | .lineEnd => if m.multiLine then .lineEnd m.crlf else .finish
  | .textStart => .start
  | .textEnd => .finish
  | .wordBoundary => .wordBoundary m.unicode
  | .noWordBoundary => .noWordBoundary m.unicode
  | .wordStart => .wordStart m.unicode
  | .wordEnd => .wordEnd m.unicode
  | .wordStartHalf => .wordStartHalf m.unicode
  | .wordEndHalf => .wordEndHalf m.unicode

def literal (m : Modes) (l : Literal) : Except Fault Expr := do
  let c ← m.character l
  return Expr.ofSet (m.fold (.ofChar c))

mutual

/-- The meaning of a node, and the modes behind it: switches hold up to the end of the group
that they stand in, also beyond a bar. -/
def node (m : Modes) : Node → Except Fault (Expr × Modes)
  | .empty => .ok (.empty, m)
  | .setSwitches s => .ok (.empty, m.apply s)
  | .literal l => do return (← m.literal l, m)
  | .dot => do return (← m.dot, m)
  | .assertion a => .ok (.look (m.assertion a), m)
  | .short n c => do return (.ofSet (← m.short n c), m)
  | .property n p => do return (.ofSet (← m.property n p), m)
  | .bracketed n s => do return (.ofSet (← m.foldAndNegate n (← m.classSet s)), m)
  | .repetition min max greedy body => do
      let (e, m') ← m.node body
      return (.repeated min max (greedy != m.swapGreed) e, m')
  | .group (.capture index name) body => do
      let (e, _) ← m.node body
      return (.capture index name e, m)
  | .group (.switches s) body => do
      let (e, _) ← (m.apply s).node body
      return (e, m)
  | .alternation branches => do
      let (es, m') ← m.nodes branches
      return (.alternatives es, m')
  | .concat parts => do
      let (es, m') ← m.nodes parts
      return (.sequence es, m')

def nodes (m : Modes) : List Node → Except Fault (List Expr × Modes)
  | [] => .ok ([], m)
  | n :: r => do
      let (e, m') ← m.node n
      let (es, m'') ← m'.nodes r
      return (e :: es, m'')

end

end Modes

end CopyFormat.Pattern
