import CopyFormat.Substitution.Replacement

/-!
Applying a search rule to a text: its matches are looked for from left to right, and each is
replaced. Places are counted in bytes.
-/

namespace CopyFormat.Substitution

/-- The place one character behind `i`, or one byte behind the end of the text. -/
def nextBoundary? (t : Text) (i : Nat) : Option Nat :=
  (Text.behind? i t).map fun
    | [] => i + 1
    | c :: _ => i + c.utf8Size

/-- Where the search goes on behind a match. -/
def resume? (t : Text) (m : Match) : Option Nat :=
  if m.start = m.stop then nextBoundary? t m.stop else some m.stop

/-- The text from the place `last` on, with the matches from the place `pos` on replaced. `find`
gives the first match at or behind a place and `insert` what replaces it. There is no result when
a place lies inside a character or behind the end of the text, or when the search would not go
on. -/
def rewriteFrom (find : Nat → Option Match) (isGlobal isSticky : Bool)
    (insert : Match → Option Text) (t : Text) (last pos : Nat) : Option Text :=
  if _ : Text.size t < pos then Text.behind? last t
  else
    match find pos with
    | none => Text.behind? last t
    | some m =>
        if isSticky && m.start != pos then Text.behind? last t
        else do
          let kept ← Text.between? t last m.start
          let piece ← insert m
          if isGlobal then
            let next ← resume? t m
            if _ : pos < next then
              let rest ← rewriteFrom find isGlobal isSticky insert t m.stop next
              return kept ++ piece ++ rest
            else none
          else
            let rest ← Text.behind? m.stop t
            return kept ++ piece ++ rest
termination_by Text.size t + 1 - pos
decreasing_by omega

/-- The text with the matches of the rule replaced. -/
def Rule.apply (r : Rule) (t replacement : Text) : Text :=
  (rewriteFrom (r.find t) r.isGlobal r.isSticky (expandReplacement r.groups replacement t) t 0
    0).getD t

/-- Searches and replaces. A blank search text changes nothing. -/
def substitute (t search replacement : Text)
    (room : Pattern.Expr → Nat := Pattern.Expr.estimatedRoom) : Except PatternError Text :=
  if search.isBlankText then .ok t
  else (Rule.parse search room).map fun r => r.apply t replacement

/-- Searches and replaces; on an error the text is kept, with the error marked behind it. -/
def substituteOrMark (t search replacement : Text)
    (room : Pattern.Expr → Nat := Pattern.Expr.estimatedRoom) : Text × Option PatternError :=
  match substitute t search replacement room with
  | .ok out => (out, none)
  | .error e => (t ++ Text.lit " [pattern error: " ++ e.message ++ [']'], some e)

end CopyFormat.Substitution
