import CopyFormat.Text.Basic

/-!
Text inside markup: what has to be escaped in the text of a link.
-/

namespace CopyFormat.Markup

/-- A character in the text of an HTML element. -/
def htmlChar : Char → Text
  | '<' => Text.lit "&lt;"
  | '>' => Text.lit "&gt;"
  | '"' => Text.lit "&quot;"
  | c => [c]

def html (t : Text) : Text := t.flatMap htmlChar

/-- The text of a Markdown link: brackets have a backslash in front. -/
def linkText (t : Text) : Text := t.flatMap fun c => if c = '[' ∨ c = ']' then ['\\', c] else [c]

end CopyFormat.Markup
