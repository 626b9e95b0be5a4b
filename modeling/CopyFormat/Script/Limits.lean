import CopyFormat.Text.Basic

/-!
The limits within which scripts are evaluated.
-/

namespace CopyFormat.Script

structure Limits where
  /-- How long an evaluation may take; zero means any time. -/
  milliseconds : Nat := 1000
  /-- How many levels may lie below a script. -/
  depth : Nat := 16
  /-- Words that are denied besides the usual ones. -/
  deniedWords : List Text := []
  deriving DecidableEq, Repr

/-- The time that an evaluation may take, if it is limited. -/
def Limits.timeout? (l : Limits) : Option Nat :=
  if l.milliseconds = 0 then none else some l.milliseconds

end CopyFormat.Script
