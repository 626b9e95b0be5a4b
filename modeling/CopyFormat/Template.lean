import CopyFormat.PageValues

/-!
Templates: text with placeholders in braces. The placeholders of the page are replaced in one
pass, and what is inserted is not looked at again. The placeholder of the script is filled by a
pass of its own.
-/

namespace CopyFormat.Template

def placeholder (name : Text) : Text := '\x7b' :: name ++ ['\x7d']

/-- The value for the placeholder that a text starts with, and the length of that. -/
def valueAt? (values : List (String × Text)) (t : Text) : Option (Text × Nat) :=
  (values.find? fun p => (placeholder p.1.toList).isPrefixOf t).map fun p =>
    (p.2, (placeholder p.1.toList).length)

/-- The template with the values of a page in place of its placeholders. -/
def expand (template : Text) (v : PageValues) : Text :=
  Text.rewrite (valueAt? v.named) 0 template

def scriptPlaceholder : Text := placeholder ['j', 's']

/-- The text with a value in place of every placeholder of the script. -/
def fillScript (t value : Text) : Text := Text.replaceAll t scriptPlaceholder value

end CopyFormat.Template
