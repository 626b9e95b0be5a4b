import CopyFormat.Text.Basic

/-!
The syntax tree of a regular expression, as it is written: characters, classes, assertions,
repetitions, groups and the switches between them.
-/

namespace CopyFormat.Pattern

/-- A switch that can stand in `(?…)`. -/
inductive Switch
  | ignoreCase
  | multiLine
  | dotAll
  | swapGreed
  | unicode
  | crlf
  | spacing
  deriving DecidableEq, Repr

def Switch.ofChar? : Char → Option Switch
  | 'i' => some .ignoreCase
  | 'm' => some .multiLine
  | 's' => some .dotAll
  | 'U' => some .swapGreed
  | 'u' => some .unicode
  | 'R' => some .crlf
  | 'x' => some .spacing
  | _ => none

/-- The switches that a group turns on and off. -/
structure SwitchSet where
  on : List Switch := []
  off : List Switch := []
  deriving DecidableEq, Repr

namespace SwitchSet

/-- What the set makes of a switch that stands at `old`. -/
def apply (s : SwitchSet) (f : Switch) (old : Bool) : Bool :=
  if s.on.contains f then true else if s.off.contains f then false else old

def mentions (s : SwitchSet) (f : Switch) : Bool := s.on.contains f || s.off.contains f

def isEmpty (s : SwitchSet) : Bool := s.on.isEmpty && s.off.isEmpty

end SwitchSet

/-- The classes `\d`, `\s` and `\w`. -/
inductive ShortClass
  | digit
  | space
  | word
  deriving DecidableEq, Repr

/-- The classes `[:alnum:]` and so on. -/
inductive NamedClass
  | alnum
  | alpha
  | ascii
  | blank
  | cntrl
  | digit
  | graph
  | lower
  | print
  | punct
  | space
  | upper
  | word
  | xdigit
  deriving DecidableEq, Repr

def NamedClass.ofName? (name : Text) : Option NamedClass :=
  match String.ofList name with
  | "alnum" => some .alnum
  | "alpha" => some .alpha
  | "ascii" => some .ascii
  | "blank" => some .blank
  | "cntrl" => some .cntrl
  | "digit" => some .digit
  | "graph" => some .graph
  | "lower" => some .lower
  | "print" => some .print
  | "punct" => some .punct
  | "space" => some .space
  | "upper" => some .upper
  | "word" => some .word
  | "xdigit" => some .xdigit
  | _ => none

/-- A property expression: one name, or a property and its value. -/
inductive PropertyName
  | single (name : Text)
  | valued (property value : Text)
  deriving DecidableEq, Repr

inductive Assertion
  | lineStart
  | lineEnd
  | textStart
  | textEnd
  | wordBoundary
  | noWordBoundary
  | wordStart
  | wordEnd
  | wordStartHalf
  | wordEndHalf
  deriving DecidableEq, Repr

/-- A character as it is written; `byte` says that it is written as `\x` and two digits. -/
structure Literal where
  char : Char
  byte : Bool := false
  deriving DecidableEq, Repr

/-- What joins two operands inside brackets. -/
inductive ClassOperator
  | intersection
  | difference
  | symmetricDifference
  deriving DecidableEq, Repr

/-- What stands inside brackets. -/
inductive ClassSet
  | literal (l : Literal)
  | range (first last : Literal)
  | short (negated : Bool) (c : ShortClass)
  | named (negated : Bool) (c : NamedClass)
  | property (negated : Bool) (p : PropertyName)
  | bracketed (negated : Bool) (inner : ClassSet)
  | union (items : List ClassSet)
  | operation (op : ClassOperator) (left right : ClassSet)
  deriving Repr

/-- What a group is for: capturing, or setting switches inside it. -/
inductive GroupKind
  | capture (index : Nat) (name : Option Text)
  | switches (s : SwitchSet)
  deriving DecidableEq, Repr

inductive Node
  | empty
  | setSwitches (s : SwitchSet)
  | literal (l : Literal)
  | dot
  | assertion (a : Assertion)
  | short (negated : Bool) (c : ShortClass)
  | property (negated : Bool) (p : PropertyName)
  | bracketed (negated : Bool) (set : ClassSet)
  | repetition (min : Nat) (max : Option Nat) (greedy : Bool) (body : Node)
  | group (kind : GroupKind) (body : Node)
  | alternation (branches : List Node)
  | concat (parts : List Node)
  deriving Repr

/-- The union of the items collected inside brackets: one item is itself. -/
def ClassSet.ofItems : List ClassSet → ClassSet
  | [one] => one
  | items => .union items

/-- The parts of a sequence as one node: one part is itself. -/
def Node.ofParts : List Node → Node
  | [] => .empty
  | [one] => one
  | parts => .concat parts

/-- The branches of an alternation as one node: one branch is itself. -/
def Node.ofBranches : List Node → Node
  | [one] => one
  | branches => .alternation branches

/-! ### Nesting -/

mutual

/-- How deep brackets are nested in what stands inside brackets. -/
def ClassSet.depth : ClassSet → Nat
  | .literal _ | .range _ _ | .short _ _ | .named _ _ | .property _ _ => 0
  | .bracketed _ inner => inner.depth + 1
  | .union [] => 0
  | .union (i :: is) => max i.depth (ClassSet.depthOfList is) + 1
  | .operation _ l r => max l.depth r.depth + 1

def ClassSet.depthOfList : List ClassSet → Nat
  | [] => 0
  | s :: r => max s.depth (ClassSet.depthOfList r)

end

mutual

/-- How deep a tree is nested; the leaves do not count. -/
def Node.depth : Node → Nat
  | .empty | .setSwitches _ | .literal _ | .dot | .assertion _ | .short _ _ | .property _ _ => 0
  | .bracketed _ set => set.depth + 1
  | .repetition _ _ _ body => body.depth + 1
  | .group _ body => body.depth + 1
  | .alternation branches => Node.depthOfList branches + 1
  | .concat parts => Node.depthOfList parts + 1

def Node.depthOfList : List Node → Nat
  | [] => 0
  | n :: r => max n.depth (Node.depthOfList r)

end

end CopyFormat.Pattern
