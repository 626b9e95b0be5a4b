import CopyFormat.Pattern.Meaning
import CopyFormat.Pattern.Reader
import CopyFormat.Pattern.Search

/-!
Compiled regular expressions: from the text of a pattern to something that can be searched for.

A program that would take too much room is refused. How much room a program takes is no matter of
what the pattern means but of how the programs are stored, so the measure is a parameter.
-/

namespace CopyFormat

/-- A regular expression that is ready to be searched for. -/
structure Pattern where
  program : Pattern.Program
  deriving Inhabited

namespace Pattern

inductive CompileError
  | faulty (fault : Fault)
  | tooLarge (limit : Nat)
  deriving DecidableEq, Repr

/-- The reason for a failure in one line. -/
def CompileError.reason (source : Text) : CompileError → Text
  | .faulty fault => fault.reason source
  | .tooLarge limit =>
      Text.lit "Compiled regex exceeds size limit of " ++ Text.ofNat limit ++ Text.lit " bytes."

/-- The expression that a pattern means. Its form is checked before its meaning. -/
def meaning (modes : Modes) (source : Text) : Except Fault Expr := do
  let n ← Node.read source
  let (e, _) ← modes.node n
  return e

/-- Compiles a pattern, which starts out in the given modes. How much room a program takes is up to
`room`. -/
def compile (room : Expr → Nat) (modes : Modes) (source : Text) : Except CompileError Pattern :=
  match meaning modes source with
  | .error f => .error (.faulty f)
  | .ok e =>
      if roomLimit < room e then .error (.tooLarge roomLimit)
      else .ok { program := .ofExpr e }

def groups (p : Pattern) : List (Option Text) := p.program.groups

/-- A pattern that matches exactly the given text. -/
def escape (t : Text) : Text := t.flatMap fun c => if isMeta c then ['\\', c] else [c]

end Pattern

end CopyFormat
