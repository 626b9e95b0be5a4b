/-!
Sets of characters as ascending intervals of code points, with the set operations that character
classes need, and the compact written form in which the property tables are kept.
-/

namespace CopyFormat.Unicode

/-- A set of characters: the intervals of code points that it covers, ends included, in ascending
order and with a gap between each two. -/
structure CharSet where
  intervals : Array (Nat × Nat)
  deriving Inhabited, DecidableEq

namespace CharSet

def maxCode : Nat := 0x10FFFF

/-- Joins intervals that overlap or touch, when they come in the order of their lower ends. -/
def merge (acc : Array (Nat × Nat)) (next : Nat × Nat) : Array (Nat × Nat) :=
  match acc.back? with
  | some last =>
      if next.1 ≤ last.2 + 1 then acc.pop.push (last.1, max last.2 next.2) else acc.push next
  | none => acc.push next

/-- The set that the given intervals cover, in whatever order they come. -/
def ofIntervals (l : List (Nat × Nat)) : CharSet :=
  ⟨(l.mergeSort fun a b => a.1 ≤ b.1).foldl merge #[]⟩

def empty : CharSet := ⟨#[]⟩

/-- Every character; the surrogate code points are none. -/
def all : CharSet := ⟨#[(0, 0xD7FF), (0xE000, maxCode)]⟩

def ofChar (c : Char) : CharSet := ⟨#[(c.toNat, c.toNat)]⟩

def ofRange (lo hi : Char) : CharSet := ⟨#[(lo.toNat, hi.toNat)]⟩

def ofChars (cs : List Char) : CharSet := ofIntervals (cs.map fun c => (c.toNat, c.toNat))

def isEmpty (s : CharSet) : Bool := s.intervals.isEmpty

def union (s t : CharSet) : CharSet := ofIntervals (s.intervals.toList ++ t.intervals.toList)

def unions (l : List CharSet) : CharSet := ofIntervals (l.flatMap fun s => s.intervals.toList)

/-- The intervals between the given ones, from `start` on. -/
def gaps (start : Nat) : List (Nat × Nat) → List (Nat × Nat)
  | [] => if start ≤ maxCode then [(start, maxCode)] else []
  | (lo, hi) :: r => if start < lo then (start, lo - 1) :: gaps (hi + 1) r else gaps (hi + 1) r

/-- The parts of an interval that are no surrogates. -/
def clip (p : Nat × Nat) : List (Nat × Nat) :=
  let below := if p.1 ≤ 0xD7FF then [(p.1, min p.2 0xD7FF)] else []
  let above := if 0xE000 ≤ p.2 then [(max p.1 0xE000, p.2)] else []
  below ++ above

def complement (s : CharSet) : CharSet :=
  ⟨((gaps 0 s.intervals.toList).flatMap clip).toArray⟩

def inter (s t : CharSet) : CharSet := (s.complement.union t.complement).complement

def diff (s t : CharSet) : CharSet := (s.complement.union t).complement

def symmDiff (s t : CharSet) : CharSet := (s.diff t).union (t.diff s)

/-- Looks for the code point `n` among the intervals `lo, …, hi - 1`, halving them. -/
def search (a : Array (Nat × Nat)) (n : Nat) (lo hi : Nat) : Bool :=
  if lo < hi then
    let mid := (lo + hi) / 2
    match a[mid]? with
    | none => false
    | some (l, u) =>
        if n < l then search a n lo mid
        else if u < n then search a n (mid + 1) hi
        else true
  else false
termination_by hi - lo
decreasing_by all_goals omega

def contains (s : CharSet) (c : Char) : Bool := search s.intervals c.toNat 0 s.intervals.size

/-- The single character of a set that has only one. -/
def single? (s : CharSet) : Option Char :=
  match s.intervals.toList with
  | [(lo, hi)] => if lo = hi then some (Char.ofNat lo) else none
  | _ => none

end CharSet

/-! ### The written form of the tables

A table is a row of entries between blanks. An entry `41-5A` is an interval of code points in
hexadecimal and `AA` an interval of one. -/

/-- The value of a hexadecimal digit in a table; anything else counts as zero. -/
def tableDigit (c : Char) : Nat :=
  let n := c.toNat
  if n < 58 then n - 48 else n - 55

/-- The words of a table. -/
def tableWords (s : String) : List (List Char) :=
  let step := fun (acc : List Char × List (List Char)) (c : Char) =>
    if c = ' ' ∨ c = '\n' then
      if acc.1.isEmpty then acc else ([], acc.1 :: acc.2)
    else (c :: acc.1, acc.2)
  let last := s.toList.foldl step ([], [])
  let reversed := if last.1.isEmpty then last.2 else last.1 :: last.2
  reversed.reverse.map List.reverse

def tableNumber (w : List Char) : Nat := w.foldl (fun n c => n * 16 + tableDigit c) 0

def tableInterval (w : List Char) : Nat × Nat :=
  let lo := w.takeWhile (· ≠ '-')
  let hi := (w.dropWhile (· ≠ '-')).drop 1
  let n := tableNumber lo
  (n, if hi.isEmpty then n else tableNumber hi)

/-- The set that a table of intervals describes; the entries come in ascending order. -/
def CharSet.ofTable (s : String) : CharSet :=
  ⟨((tableWords s).map tableInterval).toArray⟩

end CopyFormat.Unicode
