import CopyFormat.Script.Error
import CopyFormat.Text.Blank
import CopyFormat.Unicode.Word

/-!
Which scripts may be evaluated at all. A script is refused when it holds one of some call shapes
or mentions a denied word anywhere, even inside quotes.

The two tests see words differently. A call shape must not follow a word character of Unicode,
while a denied word is a whole name in ASCII.
-/

namespace CopyFormat.Script

/-- What must follow the keyword of a call shape, apart from blanks. -/
inductive CallEnding
  | parenthesis
  | dot
  /-- At least one blank and then a name. -/
  | name
  deriving DecidableEq, Repr

/-- A use of a word that is refused. -/
structure CallShape where
  keyword : Text
  ending : CallEnding
  deriving DecidableEq, Repr

/-- Whether a character can start a name. -/
def isNameStart (c : Char) : Bool := c.isAlpha || c == '_' || c == '$'

/-- Whether a character can stand in a name. -/
def isNameChar (c : Char) : Bool := isNameStart c || c.isDigit

namespace CallShape

/-- The refused shapes, in the order in which they are looked for. -/
def all : List CallShape :=
  (["eval", "Function", "setTimeout", "setInterval", "setImmediate", "requestAnimationFrame",
    "fetch", "import", "alert", "confirm", "prompt"].map fun s => ⟨s.toList, .parenthesis⟩) ++
    [⟨Text.lit "console", .dot⟩, ⟨Text.lit "new", .name⟩]

/-- How the shape is called when it is refused. -/
def shown (s : CallShape) : Text :=
  match s.ending with
  | .parenthesis => s.keyword ++ ['(']
  | .dot => s.keyword ++ ['.']
  | .name => s.keyword

/-- Whether a text continues a keyword to the shape. -/
def endsWith (e : CallEnding) (t : Text) : Bool :=
  let next := (Text.trimStart t).head?
  match e with
  | .parenthesis => next == some '('
  | .dot => next == some '.'
  | .name => t.head?.any isBlank && next.any isNameStart

/-- Whether a text starts with the shape. -/
def startsAt (s : CallShape) (t : Text) : Bool := (Text.after? s.keyword t).any (endsWith s.ending)

/-- Whether the shape occurs in a text that stands behind the given character, if any. -/
def occursBehind (s : CallShape) : Option Char → Text → Bool
  | _, [] => false
  | before, c :: r =>
      (!before.any Unicode.isWord && s.startsAt (c :: r)) || s.occursBehind (some c) r

/-- Whether the shape occurs in a text. -/
def occursIn (s : CallShape) (t : Text) : Bool := s.occursBehind none t

end CallShape

/-- The words that are refused wherever they stand. -/
def deniedWords : List Text :=
  ["eval", "Function", "importScripts", "require", "XMLHttpRequest", "WebSocket", "EventSource",
    "localStorage", "sessionStorage", "indexedDB", "document", "window", "globalThis", "chrome",
    "navigator", "constructor", "__proto__", "prototype", "debugger"].map String.toList

/-- The names that a text mentions: its runs of letters, digits, `_` and `$`, without the digits
in front. -/
def mentionedNames (t : Text) : List Text :=
  ((Text.stretches (fun c => !isNameChar c) t).map fun w => w.dropWhile Char.isDigit).filter
    fun w => !w.isEmpty

/-- The construct for which a script is refused, if it is. -/
def refused? (extra : List Text) (t : Text) : Option Text :=
  match CallShape.all.find? fun s => s.occursIn t with
  | some s => some s.shown
  | none => (mentionedNames t).find? fun w => deniedWords.contains w || extra.contains w

/-- Checks that a script may be evaluated. -/
def check (extra : List Text) (t : Text) : Except EvalError Unit :=
  match refused? extra t with
  | some construct => .error (.notAllowed construct)
  | none => .ok ()

end CopyFormat.Script
