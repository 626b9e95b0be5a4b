import CopyFormat.Unicode.CombiningClass
import CopyFormat.Unicode.Composition

/-!
The composed normal form of texts: characters are taken apart, marks on one letter are put in
order, and what belongs together is composed again.

The characters whose canonical form is a single other character are not listed here, so a text
must not hold any; names of hosts never do, since those are replaced before.
-/

namespace CopyFormat.Unicode.Normalization

/-- The pairs that a character consists of are taken apart to this depth; the greatest is three. -/
def maxDepth : Nat := 4

def partsOf : Nat → Char → List Char
  | 0, c => [c]
  | depth + 1, c =>
      match Composition.pair? c with
      | some (a, b) => partsOf depth a ++ partsOf depth b
      | none => [c]

/-- Puts a mark in front of marks, behind those of a lower class. -/
def insertMark (c : Char) : List Char → List Char
  | [] => [c]
  | d :: r =>
      if CombiningClass.of d = 0 ∨ CombiningClass.of c ≤ CombiningClass.of d then c :: d :: r
      else d :: insertMark c r

/-- The characters with the marks on each letter in order of their classes. -/
def inOrder : List Char → List Char
  | [] => []
  | c :: r => if CombiningClass.of c = 0 then c :: inOrder r else insertMark c (inOrder r)

/-- Composes what follows a letter with it. `skipped` holds the marks, in reverse, that have not
been composed; a mark behind one of its own class, or of a greater one, is not composed either. -/
def composeBehind (letter : Char) (skipped : List Char) : List Char → List Char
  | [] => letter :: skipped.reverse
  | c :: r =>
      let blocked := skipped.head?.any fun d => CombiningClass.of c ≤ CombiningClass.of d
      match if blocked then none else Composition.composite? letter c with
      | some x => composeBehind x skipped r
      | none =>
          if CombiningClass.of c = 0 then letter :: skipped.reverse ++ composeBehind c [] r
          else composeBehind letter (c :: skipped) r

def compose : List Char → List Char
  | [] => []
  | c :: r => if CombiningClass.of c = 0 then composeBehind c [] r else c :: compose r

def composed (t : List Char) : List Char := compose (inOrder (t.flatMap (partsOf maxDepth)))

end CopyFormat.Unicode.Normalization
