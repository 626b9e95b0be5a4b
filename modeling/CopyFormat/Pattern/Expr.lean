import CopyFormat.Pattern.Fault
import CopyFormat.Unicode.CaseFolding
import CopyFormat.Unicode.Word

/-!
What a regular expression means: an expression over characters, sets of characters, assertions,
repetitions and captures, in which the switches are worked out.

Expressions are put together by the functions `repetition`, `concat` and `alternation` below,
which simplify on the way. The simplifications decide which of several ways to match comes first,
and which captures are left, so they are part of the meaning.
-/

namespace CopyFormat.Pattern

open CopyFormat.Unicode

/-- A condition on a place between two characters. -/
inductive Look
  | start
  | finish
  | lineStart (crlf : Bool)
  | lineEnd (crlf : Bool)
  | wordBoundary (unicode : Bool)
  | noWordBoundary (unicode : Bool)
  | wordStart (unicode : Bool)
  | wordEnd (unicode : Bool)
  | wordStartHalf (unicode : Bool)
  | wordEndHalf (unicode : Bool)
  deriving DecidableEq, Repr

/-- Whether a condition holds between two characters; there is none at the ends of the text. -/
def Look.holds (l : Look) (before after : Option Char) : Bool :=
  let word := fun (unicode : Bool) (c : Option Char) =>
    c.any fun c => if unicode then isWord c else isAsciiWord c
  match l with
  | .start => before.isNone
  | .finish => after.isNone
  | .lineStart false => before.isNone || before == some '\n'
  | .lineEnd false => after.isNone || after == some '\n'
  | .lineStart true =>
      before.isNone || before == some '\n' || (before == some '\r' && after != some '\n')
  | .lineEnd true =>
      after.isNone || after == some '\r' || (after == some '\n' && before != some '\r')
  | .wordBoundary u => word u before != word u after
  | .noWordBoundary u => word u before == word u after
  | .wordStart u => !word u before && word u after
  | .wordEnd u => word u before && !word u after
  | .wordStartHalf u => !word u before
  | .wordEndHalf u => !word u after

inductive Expr
  | empty
  | literal (t : Text)
  | set (s : CharSet)
  | look (l : Look)
  | repetition (min : Nat) (max : Option Nat) (greedy : Bool) (body : Expr)
  | capture (index : Nat) (name : Option Text) (body : Expr)
  | concat (parts : List Expr)
  | alternation (branches : List Expr)
  deriving Inhabited

namespace Expr

mutual

/-- Whether two expressions are the same. -/
def same : Expr → Expr → Bool
  | .empty, .empty => true
  | .literal a, .literal b => a == b
  | .set a, .set b => a == b
  | .look a, .look b => a == b
  | .repetition m n g a, .repetition m' n' g' b => m == m' && n == n' && g == g' && same a b
  | .capture i n a, .capture j m b => i == j && n == m && same a b
  | .concat a, .concat b => sameAll a b
  | .alternation a, .alternation b => sameAll a b
  | _, _ => false

def sameAll : List Expr → List Expr → Bool
  | [], [] => true
  | a :: as, b :: bs => same a b && sameAll as bs
  | _, _ => false

end

mutual

/-- The least number of characters in a match; none, if nothing can match. -/
def minLength : Expr → Option Nat
  | .empty | .look _ => some 0
  | .literal t => some t.length
  | .set s => if s.isEmpty then none else some 1
  | .repetition min _ _ body => (minLength body).map (min * ·)
  | .capture _ _ body => minLength body
  | .concat parts => sumOfMins parts
  | .alternation branches => minOfMins branches

def sumOfMins : List Expr → Option Nat
  | [] => some 0
  | e :: r => do return (← minLength e) + (← sumOfMins r)

def minOfMins : List Expr → Option Nat
  | [] => none
  | [e] => minLength e
  | e :: r => do return min (← minLength e) (← minOfMins r)

end

mutual

/-- The greatest number of characters in a match; none, if there is no bound. -/
def maxLength : Expr → Option Nat
  | .empty | .look _ => some 0
  | .literal t => some t.length
  | .set s => if s.isEmpty then none else some 1
  | .repetition _ max _ body => do return (← max) * (← maxLength body)
  | .capture _ _ body => maxLength body
  | .concat parts => sumOfMaxes parts
  | .alternation branches => maxOfMaxes branches

def sumOfMaxes : List Expr → Option Nat
  | [] => some 0
  | e :: r => do return (← maxLength e) + (← sumOfMaxes r)

def maxOfMaxes : List Expr → Option Nat
  | [] => none
  | [e] => maxLength e
  | e :: r => do return max (← maxLength e) (← maxOfMaxes r)

end

/-- A set of characters; a set of one is that character. -/
def ofSet (s : CharSet) : Expr :=
  match s.single? with
  | some c => .literal [c]
  | none => .set s

/-- A repetition. What matches only the empty text is repeated once at most, and repeating
something no time or exactly once needs no repetition. -/
def repeated (min : Nat) (max : Option Nat) (greedy : Bool) (body : Expr) : Expr :=
  let idle := body.maxLength == some 0
  let min := if idle then Nat.min min 1 else min
  let max := if idle then some (Nat.min (max.getD 1) 1) else max
  if min == 0 && max == some 0 then .empty
  else if min == 1 && max == some 1 then body
  else .repetition min max greedy body

/-- The parts of a sequence when inner sequences are opened and empty parts dropped. -/
def openParts (parts : List Expr) : List Expr :=
  parts.flatMap fun e =>
    match e with
    | .empty => []
    | .concat inner => inner
    | e => [e]

/-- Puts a part in front of others; characters next to each other become one literal. -/
def consPart : Expr → List Expr → List Expr
  | .literal s, .literal t :: parts => .literal (s ++ t) :: parts
  | e, parts => e :: parts

def sequence (parts : List Expr) : Expr :=
  match (openParts parts).foldr consPart [] with
  | [] => .empty
  | [one] => one
  | all => .concat all

/-- The characters that an expression matches, when it matches single characters only. -/
def charSet? : Expr → Option CharSet
  | .set s => some s
  | .literal [c] => some (.ofChar c)
  | _ => none

def commonParts : List Expr → List Expr → List Expr
  | a :: as, b :: bs => if same a b then a :: commonParts as bs else []
  | _, _ => []

def parts? : Expr → Option (List Expr)
  | .concat parts => some parts
  | _ => none

/-- The branches of an alternation when inner alternations are opened. -/
def openBranches (branches : List Expr) : List Expr :=
  branches.flatMap fun e =>
    match e with
    | .alternation inner => inner
    | e => [e]

/-- An alternation of the given branches, which are no alternations themselves. Branches that
match single characters only become one set. -/
def oneOf : List Expr → Expr
  | [] => .set .empty
  | [one] => one
  | branches =>
      match branches.mapM charSet? with
      | some sets => ofSet (.unions sets)
      | none => .alternation branches

/-- An alternation. Parts that all branches start with are taken in front of it, as long as that
leaves fewer parts; the number bounds how often. -/
def choice : Nat → List Expr → Expr
  | 0, branches => oneOf (openBranches branches)
  | fuel + 1, branches =>
      match openBranches branches with
      | first :: second :: rest =>
          match (first :: second :: rest).mapM parts? with
          | some (p :: ps) =>
              let shared := ps.foldl commonParts p
              if shared.isEmpty then oneOf (first :: second :: rest)
              else
                let tails := (p :: ps).map fun q => sequence (q.drop shared.length)
                sequence (shared ++ [choice fuel tails])
          | _ => oneOf (first :: second :: rest)
      | all => oneOf all

mutual

/-- How many parts an expression has, itself included. -/
def size : Expr → Nat
  | .repetition _ _ _ body | .capture _ _ body => size body + 1
  | .concat parts => sizeOfAll parts + 1
  | .alternation branches => sizeOfAll branches + 1
  | _ => 1

def sizeOfAll : List Expr → Nat
  | [] => 0
  | e :: r => size e + sizeOfAll r

end

def alternatives (branches : List Expr) : Expr := choice (sizeOfAll branches) branches

end Expr

end CopyFormat.Pattern
