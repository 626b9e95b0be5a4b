import CopyFormat.Page
import CopyFormat.Script.Context
import CopyFormat.Url.Location

/-!
The values of a page that templates and scripts can refer to.
-/

namespace CopyFormat

/-- The values of a page; the domain and the path are read off its address. -/
structure PageValues where
  title : Text
  url : Text
  domain : Text
  path : Text
  selectedText : Text
  deriving DecidableEq, Repr

namespace PageValues

def ofPage (p : Page) : PageValues :=
  let place := Url.locate p.url
  { title := p.title
    url := p.url
    domain := place.host
    path := place.path
    selectedText := p.selected }

def named (v : PageValues) : List (String × Text) :=
  [("title", v.title), ("url", v.url), ("domain", v.domain), ("path", v.path),
    ("selectedText", v.selectedText)]

def get? (v : PageValues) (name : Text) : Option Text :=
  (v.named.find? fun p => p.1.toList = name).map Prod.snd

/-- What names mean in the scripts of a page: the operations, the values of the page, and the
present date. -/
def context (v : PageValues) (now : Date.Moment) : Script.Context :=
  let bind := fun (ctx : Script.Context) (p : String × Text) => ctx.set p.1.toList (.text p.2)
  (v.named.foldl bind (.operations now)).set (Text.lit "date") (.text now.iso)

end PageValues

end CopyFormat
