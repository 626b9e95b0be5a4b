import CopyFormat.Text.Blank

/-!
The page that is formatted.
-/

namespace CopyFormat

/-- A page: its title and address, and the text that is selected on it, if any. -/
structure Page where
  title : Text := []
  url : Text := []
  selection : Option Text := none
  deriving DecidableEq, Repr

/-- The selected text, which is empty when nothing is selected. -/
def Page.selected (p : Page) : Text := p.selection.getD []

end CopyFormat
