import CopyFormat.Text.Basic
import CopyFormat.Unicode.Binary

/-!
Uppercase and lowercase forms of whole texts. A capital sigma at the end of a word becomes the
final sigma; every other character is mapped by itself.
-/

namespace CopyFormat.Text

open CopyFormat.Unicode

def upper (t : Text) : Text := t.flatMap CaseMapping.upper

/-- Whether the first character that case does not ignore is a cased one. -/
def leadsToCased (t : Text) : Bool :=
  match t.dropWhile Binary.caseIgnorable.contains with
  | [] => false
  | c :: _ => Binary.cased.contains c

/-- The lowercase form of a capital sigma between the reversed text before it and the text
behind it: final when a cased character comes before and none behind. -/
def lowerSigma (before behind : Text) : Char :=
  if leadsToCased before && !leadsToCased behind then 'ς' else 'σ'

/-- The lowercase form of the text that stands behind `before`, which is kept in reverse. -/
def lowerBehind (before : Text) : Text → Text
  | [] => []
  | c :: r =>
      (if c = 'Σ' then [lowerSigma before r] else CaseMapping.lower c) ++
        lowerBehind (c :: before) r

def lower (t : Text) : Text := lowerBehind [] t

end CopyFormat.Text
