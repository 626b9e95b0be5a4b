import CopyFormat.Pattern.Expr

/-!
The matching program of an expression: a numbered list of steps, each of which takes a character,
checks a condition, notes a place or chooses between other steps.

A program is put together from its end: `compile` gets the number of the step that follows and
returns the number of the first step. The order of the choices is the order of preference.
-/

namespace CopyFormat.Pattern

open CopyFormat.Unicode

inductive Step
  | char (c : Char) (next : Nat)
  | set (s : CharSet) (next : Nat)
  | look (l : Look) (next : Nat)
  | mark (slot : Nat) (next : Nat)
  | choose (options : List Nat)
  | accept
  deriving Inhabited

abbrev Steps := Array Step

namespace Steps

/-- Adds a step and gives its number. -/
def add (p : Steps) (s : Step) : Nat × Steps := (p.size, p.push s)

/-- Adds a choice between `body` and `next`, the greedy one with `body` first. -/
def addChoice (p : Steps) (greedy : Bool) (body next : Nat) : Nat × Steps :=
  p.add (.choose (if greedy then [body, next] else [next, body]))

/-- A loop: `body` is compiled with a choice behind it that leads back to it. Gives the start of
the body and the number of the choice. -/
def loop (p : Steps) (greedy : Bool) (body : Nat → Steps → Nat × Steps) (next : Nat) :
    Nat × Nat × Steps :=
  let (back, p₁) := p.add (.choose [])
  let (start, p₂) := body back p₁
  (start, back, p₂.setIfInBounds back (.choose (if greedy then [start, next] else [next, start])))

/-- `body` a fixed number of times. -/
def times (body : Nat → Steps → Nat × Steps) : Nat → Nat → Steps → Nat × Steps
  | 0, next, p => (next, p)
  | k + 1, next, p =>
      let (rest, p₁) := times body k next p
      body rest p₁

/-- `body` up to a number of times; each time it can be left for `done`. -/
def upTo (greedy : Bool) (body : Nat → Steps → Nat × Steps) (done : Nat) :
    Nat → Steps → Nat × Steps
  | 0, p => (done, p)
  | k + 1, p =>
      let (rest, p₁) := upTo greedy body done k p
      let (start, p₂) := body rest p₁
      p₂.addChoice greedy start done

/-- The characters of a literal one after the other. -/
def literal : Text → Nat → Steps → Nat × Steps
  | [], next, p => (next, p)
  | c :: r, next, p =>
      let (rest, p₁) := literal r next p
      p₁.add (.char c rest)

mutual

/-- Adds the steps of an expression in front of the step `next`. A body that can match the empty
text is not repeated as a plain loop, since then its empty match would come too early in the
order of preference: it is tried once, and then again in a loop of its own. -/
def compile : Expr → Nat → Steps → Nat × Steps
  | .empty, next, p => (next, p)
  | .literal t, next, p => literal t next p
  | .set s, next, p => p.add (.set s next)
  | .look l, next, p => p.add (.look l next)
  | .capture index _ body, next, p =>
      let (close, p₁) := p.add (.mark (2 * index + 1) next)
      let (start, p₂) := compile body close p₁
      p₂.add (.mark (2 * index) start)
  | .concat parts, next, p => compileAll parts next p
  | .alternation branches, next, p =>
      let (starts, p₁) := compileEach branches next p
      p₁.add (.choose starts)
  | .repetition min (some max) greedy body, next, p =>
      let (optional, p₁) := upTo greedy (fun n q => compile body n q) next (max - min) p
      times (fun n q => compile body n q) min optional p₁
  | .repetition 0 none greedy body, next, p =>
      let (start, back, p₁) := p.loop greedy (fun n q => compile body n q) next
      if body.minLength.any (0 < ·) then (back, p₁) else p₁.addChoice greedy start next
  | .repetition (min + 1) none greedy body, next, p =>
      let (start, _, p₁) := p.loop greedy (fun n q => compile body n q) next
      times (fun n q => compile body n q) min start p₁

def compileAll : List Expr → Nat → Steps → Nat × Steps
  | [], next, p => (next, p)
  | e :: r, next, p =>
      let (rest, p₁) := compileAll r next p
      compile e rest p₁

def compileEach : List Expr → Nat → Steps → List Nat × Steps
  | [], _, p => ([], p)
  | e :: r, next, p =>
      let (start, p₁) := compile e next p
      let (starts, p₂) := compileEach r next p₁
      (start :: starts, p₂)

end

end Steps

/-- A program: its steps, where it starts, and the names of its groups. Group 0 is the whole
match and has no name. -/
structure Program where
  steps : Steps
  start : Nat
  groups : List (Option Text)
  deriving Inhabited

/-! ### Groups -/

mutual

/-- The groups of an expression with their numbers, from left to right. -/
def Expr.captures : Expr → List (Nat × Option Text)
  | .repetition _ _ _ body => body.captures
  | .capture index name body => (index, name) :: body.captures
  | .concat parts => Expr.capturesOfAll parts
  | .alternation branches => Expr.capturesOfAll branches
  | _ => []

def Expr.capturesOfAll : List Expr → List (Nat × Option Text)
  | [] => []
  | e :: r => e.captures ++ Expr.capturesOfAll r

end

/-- The names of the groups by number. Groups that were simplified away count up to the last one
that is left, without a name. -/
def Expr.groups (e : Expr) : List (Option Text) :=
  let found := e.captures
  let last := found.foldl (fun n p => max n p.1) 0
  none :: (List.range last).map fun i => (found.lookup (i + 1)).getD none

def Program.ofExpr (e : Expr) : Program :=
  let (last, p₀) := Steps.add #[] .accept
  let (start, steps) := Steps.compile e last p₀
  { steps, start, groups := e.groups }

/-! ### Size -/

/-- How many bytes a character takes in UTF-8. -/
def utf8Length (c : Char) : Nat :=
  if c.toNat < 0x80 then 1 else if c.toNat < 0x800 then 2 else if c.toNat < 0x10000 then 3 else 4

mutual

/-- About how many steps a program takes for the expression when it reads bytes. -/
def Expr.stepCount : Expr → Nat
  | .empty => 0
  | .literal t => (t.map utf8Length).sum
  | .set s => s.intervals.foldl (fun n i => n + if i.2 < 0x80 then 1 else 2) 0
  | .look _ => 1
  | .repetition min (some max) _ body => max * body.stepCount + (max - min)
  | .repetition min none _ body => max min 1 * body.stepCount + 1
  | .capture _ _ body => body.stepCount + 2
  | .concat parts => Expr.stepCountOfAll parts
  | .alternation branches => Expr.stepCountOfAll branches + 1

def Expr.stepCountOfAll : List Expr → Nat
  | [] => 0
  | e :: r => e.stepCount + Expr.stepCountOfAll r

end

/-- About how much room the program of an expression takes: 32 bytes for each of its steps and for
the six that stand around every program. Patterns are compiled with this estimate unless another
measure is given. -/
def Expr.estimatedRoom (e : Expr) : Nat := (e.stepCount + 6) * 32

/-- The room that the program of a pattern may take. -/
def roomLimit : Nat := 10485760

end CopyFormat.Pattern
