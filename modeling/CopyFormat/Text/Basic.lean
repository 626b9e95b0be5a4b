/-!
Text and the plain, pattern-free operations on it: searching, cutting, joining and rewriting
from left to right, and decimal naturals.

Text is a list of characters, so that every operation is a recursion on it. `rewrite` is the one
left-to-right replacement that the template, the script value and `replaceAll` share.
-/

namespace CopyFormat

/-- Text is a list of characters. Strings occur only as literals and at the outer boundary. -/
abbrev Text := List Char

namespace Text

abbrev lit (s : String) : Text := s.toList

/-- What follows `lead`, when the text starts with it. -/
def after? : Text → Text → Option Text
  | [], t => some t
  | _ :: _, [] => none
  | c :: lead, d :: t => if c = d then after? lead t else none

/-- The first occurrence of `needle`: what stands before it and what follows it. -/
def cut? (needle : Text) : Text → Option (Text × Text)
  | [] => if needle.isEmpty then some ([], []) else none
  | c :: r =>
      if needle.isPrefixOf (c :: r) then some ([], (c :: r).drop needle.length)
      else (cut? needle r).map fun p => (c :: p.1, p.2)

def occursIn (needle t : Text) : Bool := (cut? needle t).isSome

/-- Rewrites a text from left to right. `rule` looks at the text that is left; a hit gives what
to write instead and how many characters it covers, and reading goes on behind them. The
number counts the characters that an earlier hit still covers. -/
def rewrite (rule : Text → Option (Text × Nat)) : Nat → Text → Text
  | _, [] => []
  | k + 1, _ :: r => rewrite rule k r
  | 0, c :: r =>
      match rule (c :: r) with
      | some (piece, covered) => piece ++ rewrite rule (covered - 1) r
      | none => c :: rewrite rule 0 r

/-- Every leftmost, non-overlapping occurrence of `old` replaced by `new`; an empty `old`
occurs nowhere. -/
def replaceAll (t old new : Text) : Text :=
  rewrite (fun rest =>
    if !old.isEmpty && old.isPrefixOf rest then some (new, old.length) else none) 0 t

/-- The parts between the leftmost, non-overlapping occurrences of `sep`. The number counts the
characters that the last separator still covers. -/
def splitFrom (sep : Text) : Nat → Text → List Text
  | _, [] => [[]]
  | k + 1, _ :: r => splitFrom sep k r
  | 0, c :: r =>
      if sep.isPrefixOf (c :: r) then [] :: splitFrom sep (sep.length - 1) r
      else
        match splitFrom sep 0 r with
        | [] => [[c]]
        | part :: parts => (c :: part) :: parts

/-- The parts of a text between the occurrences of a non-empty separator. -/
def splitOn (t sep : Text) : List Text := splitFrom sep 0 t

/-- The stretches of a list between the elements that satisfy `p`. -/
def stretches {α : Type} (p : α → Bool) : List α → List (List α)
  | [] => [[]]
  | c :: r =>
      if p c then [] :: stretches p r
      else
        match stretches p r with
        | [] => [[c]]
        | s :: ss => (c :: s) :: ss

/-- The last occurrence of `needle` behind which `p` holds: what stands before and behind it. -/
def lastCut? (needle : Text) (p : Text → Bool) : Text → Option (Text × Text)
  | [] => none
  | c :: r =>
      match lastCut? needle p r with
      | some (before, behind) => some (c :: before, behind)
      | none => ((after? needle (c :: r)).filter p).map fun behind => ([], behind)

/-- The parts with `sep` between each two of them. -/
def join (sep : Text) (parts : List Text) : Text := sep.intercalate parts

/-- The lines of a text: a line feed ends a line, a carriage return before it belongs to the
ending, and an unfinished last line counts when it is not empty. -/
def lines (t : Text) : List Text :=
  let parts := splitOn t ['\n']
  let ended := parts.dropLast.map fun l => if l.getLast? = some '\r' then l.dropLast else l
  match parts.getLast? with
  | none | some [] => ended
  | some last => ended ++ [last]

def ofNat (n : Nat) : Text := Nat.toDigits 10 n

def digitValue? (c : Char) : Option Nat :=
  if '0' ≤ c ∧ c ≤ '9' then some (c.toNat - '0'.toNat) else none

/-- The value of a hexadecimal digit of either case. -/
def hexValue? (c : Char) : Option Nat :=
  if '0' ≤ c ∧ c ≤ '9' then some (c.toNat - '0'.toNat)
  else if 'a' ≤ c ∧ c ≤ 'f' then some (c.toNat - 'a'.toNat + 10)
  else if 'A' ≤ c ∧ c ≤ 'F' then some (c.toNat - 'A'.toNat + 10)
  else none

/-- The number that a row of digits writes in the given base; other characters count as zero. -/
def numeral (base : Nat) (digits : Text) : Nat :=
  digits.foldl (fun n c => n * base + (hexValue? c).getD 0) 0

def lastIndex? (c : Char) (t : Text) : Option Nat :=
  (t.reverse.findIdx? (· = c)).map fun i => t.length - 1 - i

end Text

end CopyFormat
