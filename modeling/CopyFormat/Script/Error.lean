import CopyFormat.Script.Arithmetic

/-!
Why a script has no value, and how that is told.
-/

namespace CopyFormat.Script

/-- How many arguments an operation takes. -/
structure Arity where
  least : Nat
  /-- The greatest number, if there is one. -/
  greatest : Option Nat
  deriving DecidableEq, Repr

def Arity.text (a : Arity) : Text :=
  match a.greatest with
  | none => Text.lit "at least " ++ Text.ofNat a.least
  | some n => if n = a.least then Text.ofNat n else Text.ofNat a.least ++ '-' :: Text.ofNat n

/-- Why a script that may be evaluated has no value. -/
inductive EvalFault
  | nestedTooDeep (levels : Nat)
  | notCalled (operation : Text)
  | unknownName (name : Text)
  | unknownOperation (name : Text)
  | argumentCount (operation : Text) (expected : Arity) (count : Nat)
  | noLength (kind : Text)
  | dateFormat (format : Text)
  | arithmetic (fault : ArithmeticFault)
  /-- A reason that is told as it stands. -/
  | stated (reason : Text)
  deriving DecidableEq, Repr

def EvalFault.message : EvalFault → Text
  | .nestedTooDeep levels =>
      Text.lit "expression nested deeper than " ++ Text.ofNat levels ++ Text.lit " levels"
  | .notCalled operation =>
      '\'' :: operation ++ Text.lit "' is an operation and must be called"
  | .unknownName name => Text.lit "unknown name '" ++ name ++ ['\'']
  | .unknownOperation name => Text.lit "unknown operation '" ++ name ++ ['\'']
  | .argumentCount operation expected count =>
      operation ++ Text.lit " expects " ++ expected.text ++ Text.lit " argument(s), got " ++
        Text.ofNat count
  | .noLength kind => kind ++ Text.lit " has no length"
  | .dateFormat format => Text.lit "invalid date format '" ++ format ++ ['\'']
  | .arithmetic fault => fault.message
  | .stated reason => reason

inductive EvalError
  | securityViolation (detail : Text)
  | evaluation (fault : EvalFault)
  | timedOut (milliseconds : Nat)
  deriving DecidableEq, Repr

namespace EvalError

/-- The refusal of a construct. -/
def notAllowed (construct : Text) : EvalError :=
  .securityViolation ('\'' :: construct ++ Text.lit "' is not allowed")

def message : EvalError → Text
  | .securityViolation detail => Text.lit "security violation: " ++ detail
  | .evaluation fault => fault.message
  | .timedOut milliseconds =>
      Text.lit "evaluation timed out after " ++ Text.ofNat milliseconds ++ ['m', 's']

/-- What stands in the output in place of the value. -/
def marker (e : EvalError) : Text := Text.lit "[error: " ++ e.message ++ [']']

end EvalError

end CopyFormat.Script
