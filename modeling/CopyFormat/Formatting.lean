import CopyFormat.CustomFormat
import CopyFormat.Script.Race
import CopyFormat.Substitution.Apply
import CopyFormat.Template

/-!
Formatting a page: the template is expanded, the script is evaluated and filled in, and then the
search is applied. A failure never stops this; it is marked in the text and told beside it.
-/

namespace CopyFormat

/-- A failure that is told beside the text. -/
inductive Diagnostic
  | script (e : Script.EvalError)
  | pattern (e : Substitution.PatternError)
  deriving DecidableEq, Repr

/-- The wording, with where the failure comes from. -/
def Diagnostic.text : Diagnostic → Text
  | .script e => Text.lit "script: " ++ e.message
  | .pattern e => Text.lit "search pattern: " ++ e.message

/-- A formatted text and the failures on the way to it. -/
structure Formatted where
  text : Text
  diagnostics : List Diagnostic := []
  deriving DecidableEq, Repr

/-- Whether nothing has failed. -/
def Formatted.isClean (f : Formatted) : Bool := f.diagnostics.isEmpty

/-- What formatting takes from the outside: the time of day, how the evaluation of a script goes,
and how much room the program of a search takes. -/
structure Circumstances where
  now : Date.Moment
  race : Script.Race := .finished
  room : Pattern.Expr → Nat := Pattern.Expr.estimatedRoom
  deriving Inhabited

instance : Coe Date.Moment Circumstances := ⟨fun now => { now }⟩

namespace CustomFormat

/-- The text that fills the placeholder of the script, and the failure that it marks. -/
def scriptText (limits : Script.Limits) (c : Circumstances) (v : PageValues) (source : Text) :
    Text × List Diagnostic :=
  match c.race.evaluate limits (v.context c.now) source with
  | .ok v => (v.display, [])
  | .error e => (e.marker, [.script e])

/-- The template of a format filled with the values of a page and the value of the script. -/
def filled (limits : Script.Limits) (c : Circumstances) (f : CustomFormat) (v : PageValues) :
    Formatted :=
  let text := Template.expand f.template v
  if f.hasScript then
    let p := scriptText limits c v f.scriptSource
    { text := Template.fillScript text p.1, diagnostics := p.2 }
  else { text }

def apply (limits : Script.Limits) (c : Circumstances) (f : CustomFormat) (p : Page) : Formatted :=
  let out := f.filled limits c (.ofPage p)
  if f.hasSearch then
    let (text, e) :=
      Substitution.substituteOrMark out.text f.searchPattern f.replacePattern c.room
    { text, diagnostics := out.diagnostics ++ e.toList.map .pattern }
  else out

end CustomFormat

end CopyFormat
