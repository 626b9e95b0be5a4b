import CopyFormat.Substitution.Rule

/-!
Replacement texts. A dollar sign starts a token that stands for a part of the match or of the
text around it; a dollar sign that starts none stands for itself.
-/

namespace CopyFormat.Substitution

inductive Piece
  | char (c : Char)
  | before
  | behind
  | group (index : Nat)
  | named (name : Text)
  deriving DecidableEq, Repr

/-- The group that one or two digits behind a dollar sign refer to, among `count` groups, and
how many digits that takes. Two digits count when there is such a group. -/
def groupReference? (count : Nat) (t : Text) : Option (Nat × Nat) := do
  let one ← t.head? >>= Text.digitValue?
  let two := ((t.drop 1).head? >>= Text.digitValue?).map (one * 10 + ·)
  match two with
  | some n =>
      if 1 ≤ n ∧ n ≤ count then return (n, 2)
      else if 1 ≤ one ∧ one ≤ count then return (one, 1)
      else none
  | none => if 1 ≤ one ∧ one ≤ count then return (one, 1) else none

/-- The token that a replacement text starts with, and how many characters it takes. `names`
says whether the pattern has named groups. -/
def token? (count : Nat) (names : Bool) : Text → Option (Piece × Nat)
  | '$' :: '$' :: _ => some (.char '$', 2)
  | '$' :: '&' :: _ => some (.group 0, 2)
  | '$' :: '`' :: _ => some (.before, 2)
  | '$' :: '\'' :: _ => some (.behind, 2)
  | '$' :: '<' :: r =>
      let name := r.takeWhile (· ≠ '>')
      if names && name.length < r.length then some (.named name, name.length + 3) else none
  | '$' :: r => (groupReference? count r).map fun p => (.group p.1, p.2 + 1)
  | _ => none

/-- The parts of a replacement text. The first number counts the characters that the last token
still takes. -/
def pieces (count : Nat) (names : Bool) : Nat → Text → List Piece
  | _, [] => []
  | k + 1, _ :: r => pieces count names k r
  | 0, c :: r =>
      match token? count names (c :: r) with
      | some (p, taken) => p :: pieces count names (taken - 1) r
      | none => .char c :: pieces count names 0 r

/-- The text of a group, which is empty when it did not take part. -/
def Match.group (m : Match) (t : Text) (index : Nat) : Text :=
  match m.groups[index]? with
  | some (some (a, b)) => (Text.between? t a b).getD []
  | _ => []

/-- What a part of a replacement text stands for at a match; nothing, if the match does not lie in
the text. -/
def Piece.expand (names : List (Option Text)) (t : Text) (m : Match) : Piece → Option Text
  | .char c => some [c]
  | .before => Text.before? m.start t
  | .behind => Text.behind? m.stop t
  | .group index => some (m.group t index)
  | .named name =>
      match names.findIdx? (· == some name) with
      | some index => some (m.group t index)
      | none => some []

/-- What a replacement text inserts at a match. -/
def expandReplacement (names : List (Option Text)) (replacement t : Text) (m : Match) :
    Option Text :=
  ((pieces (names.length - 1) (names.any Option.isSome) 0 replacement).mapM
    (Piece.expand names t m)).map List.flatten

end CopyFormat.Substitution
