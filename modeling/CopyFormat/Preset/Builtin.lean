import CopyFormat.Markup
import CopyFormat.Page

/-!
The presets that are always there.
-/

namespace CopyFormat

inductive Builtin
  | titleUrlNewline
  | titleUrlSpace
  | markdown
  | html
  | selectedText
  deriving DecidableEq, Repr

namespace Builtin

def all : List Builtin := [titleUrlNewline, titleUrlSpace, markdown, html, selectedText]

def id : Builtin → Text
  | titleUrlNewline => Text.lit "title-url-newline"
  | titleUrlSpace => Text.lit "title-url-space"
  | markdown => Text.lit "markdown-format"
  | html => Text.lit "html-format"
  | selectedText => Text.lit "selected-text-format"

def name : Builtin → Text
  | titleUrlNewline => Text.lit "Title and URL (newline)"
  | titleUrlSpace => Text.lit "Title and URL (space)"
  | markdown => Text.lit "Markdown link"
  | html => Text.lit "HTML link"
  | selectedText => Text.lit "Selection, title and URL"

def icon : Builtin → Text
  | titleUrlNewline => Text.lit "📄"
  | titleUrlSpace => Text.lit "🔗"
  | markdown => Text.lit "📝"
  | html => Text.lit "🌐"
  | selectedText => Text.lit "✂\uFE0F"

def description : Builtin → Text
  | titleUrlNewline => Text.lit "Title and URL on separate lines"
  | titleUrlSpace => Text.lit "Title and URL joined by a space"
  | markdown => Text.lit "Markdown link with brackets in the title escaped"
  | html => Text.lit "HTML anchor with the title escaped"
  | selectedText => Text.lit "Selected text, a blank line, then title and URL"

/-- The text that a preset makes of a page. -/
def render (b : Builtin) (p : Page) : Text :=
  match b with
  | titleUrlNewline => p.title ++ '\n' :: p.url
  | titleUrlSpace => p.title ++ ' ' :: p.url
  | markdown => '[' :: Markup.linkText p.title ++ ']' :: '(' :: p.url ++ [')']
  | html => Text.lit "<a href=\"" ++ p.url ++ '"' :: '>' :: Markup.html p.title ++ Text.lit "</a>"
  | selectedText =>
      let selected := Text.trim p.selected
      (if selected.isEmpty then [] else selected ++ ['\n', '\n']) ++ p.title ++ '\n' :: p.url

end Builtin

end CopyFormat
