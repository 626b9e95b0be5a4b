import CopyFormat.Text.Blank
import CopyFormat.Url.Host
import CopyFormat.Url.Path

/-!
Reading absolute addresses: the host and the path of a URL.

The scheme decides how the rest is read. A few schemes are known to have a host, which may not be
empty, and take a backslash for a slash; the scheme of files has rules of its own; the rest of
any other address is taken much as it stands.
-/

namespace CopyFormat.Url

/-- Where a page is: its host, which may be empty, and its path. -/
structure Location where
  host : Text
  path : Text
  deriving DecidableEq, Repr, Inhabited

inductive SchemeKind
  | file
  | hosted
  | other
  deriving DecidableEq, Repr

/-- What is known about the scheme of a name in lowercase. -/
def SchemeKind.of (scheme : Text) : SchemeKind :=
  if scheme = Text.lit "file" then .file
  else if (["http", "https", "ws", "wss", "ftp"].map String.toList).contains scheme then .hosted
  else .other

def SchemeKind.isSlash (k : SchemeKind) (c : Char) : Bool := c == '/' || (k != .other && c == '\\')

def SchemeKind.endsHost (k : SchemeKind) (c : Char) : Bool := k.isSlash c || c == '?' || c == '#'

def endsPath (c : Char) : Bool := c == '?' || c == '#'

def isSchemeChar (c : Char) : Bool := c.isAlphanum || c == '+' || c == '-' || c == '.'

/-- The name of the scheme in lowercase, and what follows its colon. -/
def scheme? (t : Text) : Option (Text × Text) :=
  let name := t.takeWhile isSchemeChar
  match t.dropWhile isSchemeChar with
  | ':' :: r => if name.head?.any Char.isAlpha then some (name.map Char.toLower, r) else none
  | _ => none

/-! ### Paths -/

/-- The resolved segments of the path that a text starts with. -/
def segments (k : SchemeKind) (t : Text) : List Text :=
  let parts := Text.stretches k.isSlash (t.takeWhile fun c => !endsPath c)
  resolve (k == .file) (parts.map (percentEncode isEncodedInPath))

/-- The path that begins behind a host; it is empty only if the scheme allows. -/
def pathBehindHost (k : SchemeKind) (t : Text) : Text :=
  match t with
  | [] => if k = .other then [] else ['/']
  | c :: r =>
      if k.isSlash c then pathText (segments k r)
      else if k = .other && endsPath c then []
      else pathText (segments k (c :: r))

/-- The path of an address without a host. One that does not start with a slash is kept as it
is. -/
def pathWithoutHost (t : Text) : Text :=
  match t with
  | '/' :: r => pathText (segments .other r)
  | r => percentEncode isControl (r.takeWhile fun c => !endsPath c)

/-! ### Hosts with credentials and ports -/

/-- The text before and behind the last `@`. -/
def credentials? (authority : Text) : Option (Text × Text) :=
  Text.lastCut? ['@'] (fun _ => true) authority

/-- The length of the host that a text starts with: a colon ends it that stands outside
brackets. -/
def hostLength (bracketed : Bool) : Text → Nat
  | [] => 0
  | c :: r =>
      if c = ':' ∧ !bracketed then 0
      else hostLength (if c = '[' then true else if c = ']' then false else bracketed) r + 1

/-- What is left of a text behind a colon and a port, which may be empty. Only a backslash may
follow the port. -/
def behindPort? (t : Text) : Option Text :=
  match t with
  | ':' :: r =>
      let digits := r.takeWhile Char.isDigit
      let rest := r.dropWhile Char.isDigit
      if Text.numeral 10 digits ≤ 0xFFFF && (rest.isEmpty || rest.head? == some '\\') then some rest
      else none
  | r => some r

/-- Reads what follows the two slashes of an address that is no file. -/
def behindSlashes? (k : SchemeKind) (t : Text) : Option Location := do
  let authority := t.takeWhile fun c => !k.endsHost c
  let rest := t.dropWhile fun c => !k.endsHost c
  let (credentials, hostPort) := (credentials? authority).getD ([], authority)
  if (credentials? authority).isSome && authority = ['@'] && !rest.isEmpty then none
  let length := hostLength false hostPort
  let hostText := hostPort.take length
  let host ← if k = .other then plainHost? hostText else domainHost? hostText
  if host.isEmpty then
    if (hostPort.drop length).head? = some ':' then none
    if !credentials.isEmpty && credentials != [':'] then none
  let left ← behindPort? (hostPort.drop length)
  return { host, path := pathBehindHost k (left ++ rest) }

/-! ### Files -/

/-- The host of a file; none, if it is left out or the machine itself. -/
def fileHost? (t : Text) : Option Text :=
  if t.isEmpty then some []
  else (domainHost? t).map fun host => if host = Text.lit "localhost" then [] else host

/-- Reads what follows the two slashes of the address of a file. A host is dropped when the path
starts with a drive letter. -/
def fileBehindSlashes? (t : Text) : Option Location := do
  let first := t.takeWhile fun c => !SchemeKind.file.endsHost c
  if isDriveLetter first then
    return { host := [], path := filePathText (segments .file t) }
  let rest := t.dropWhile fun c => !SchemeKind.file.endsHost c
  let host ← fileHost? first
  if host.isEmpty then
    return { host, path := filePathText (segments .file rest) }
  let parts := segments .file (if rest.head?.any SchemeKind.file.isSlash then rest.drop 1 else rest)
  return { host := if parts.head?.any isDriveLetter then [] else host, path := filePathText parts }

/-- Reads what follows the scheme of a file. -/
def file? (t : Text) : Option Location :=
  match t with
  | c :: d :: r =>
      if SchemeKind.file.isSlash c && SchemeKind.file.isSlash d then fileBehindSlashes? r
      else some { host := [], path := filePathText (segments .file (dropSlash (c :: d :: r))) }
  | r => some { host := [], path := filePathText (segments .file (dropSlash r)) }
where
  dropSlash : Text → Text
    | [] => []
    | c :: r => if SchemeKind.file.isSlash c then r else c :: r

/-! ### Addresses -/

/-- An address without what does not count: control characters and spaces around it, tabs and
line breaks within. -/
def cleaned (t : Text) : Text :=
  let isOuter := fun (c : Char) => c.toNat ≤ 0x20
  let t := ((t.dropWhile isOuter).reverse.dropWhile isOuter).reverse
  t.filter fun c => c != '\t' && c != '\n' && c != '\r'

def parse? (t : Text) : Option Location := do
  let (scheme, r) ← scheme? (cleaned t)
  match SchemeKind.of scheme with
  | .file => file? r
  | .hosted => behindSlashes? .hosted (r.dropWhile SchemeKind.hosted.isSlash)
  | .other =>
      match r with
      | '/' :: '/' :: r' => behindSlashes? .other r'
      | r' => return { host := [], path := pathWithoutHost r' }

/-- Where the page with an address is; host and path are empty if the address cannot be read. -/
def locate (address : Text) : Location :=
  (parse? (Text.trim address)).getD { host := [], path := [] }

end CopyFormat.Url
