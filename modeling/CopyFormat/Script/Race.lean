import CopyFormat.Script.Eval

/-!
Evaluations that are waited for. With a limit of time an evaluation runs beside the one who waits
for it, and a result that comes late is not looked at. Which of them is faster is not up to the
script, so the outcome of the race is taken from the outside.
-/

namespace CopyFormat.Script

/-- How the race between an evaluation and its limit of time goes. -/
inductive Race
  | finished
  /-- The time is over before there is a result. -/
  | late
  | notStarted (reason : Text)
  /-- The evaluation ends and leaves no result. -/
  | stopped
  deriving Inhabited

/-- Evaluates a script, and waits for its value no longer than the limits allow. -/
def Race.evaluate (race : Race) (limits : Limits) (ctx : Context) (source : Text) :
    Except EvalError Value :=
  match limits.timeout?, race with
  | none, _ | some _, finished => Script.evaluate limits ctx source
  | some milliseconds, late => .error (.timedOut milliseconds)
  | some _, notStarted reason =>
      .error (.evaluation (.stated (Text.lit "could not start evaluator: " ++ reason)))
  | some _, stopped =>
      .error (.evaluation (.stated (Text.lit "evaluator stopped without a result")))

end CopyFormat.Script
