import CopyFormat.Json.Number

/-!
Reading JSON. The text is cut into tokens, and a machine takes the tokens one by one; the arrays
and objects that are open are kept in a list of frames, innermost first. Nothing is told about a
mistake but that there is one.
-/

namespace CopyFormat.Json

inductive Token
  | openArray
  | closeArray
  | openObject
  | closeObject
  | comma
  | colon
  | null
  | bool (b : Bool)
  | number (n : Number)
  | text (t : Text)

def hexQuad? (a b c d : Char) : Option Nat := do
  return (((← Text.hexValue? a) * 16 + (← Text.hexValue? b)) * 16 + (← Text.hexValue? c)) * 16 +
    (← Text.hexValue? d)

/-- The character of a one-letter escape. -/
def simpleEscape? : Char → Option Char
  | '"' => some '"'
  | '\\' => some '\\'
  | '/' => some '/'
  | 'b' => some '\x08'
  | 'f' => some '\x0c'
  | 'n' => some '\n'
  | 'r' => some '\r'
  | 't' => some '\t'
  | _ => none

/-- The character that a pair of surrogates stands for. -/
def ofSurrogates? (high low : Nat) : Option Char :=
  if 0xD800 ≤ high ∧ high < 0xDC00 ∧ 0xDC00 ≤ low ∧ low < 0xE000 then
    some (Char.ofNat (0x10000 + (high - 0xD800) * 0x400 + (low - 0xDC00)))
  else none

/-- Reads the rest of a text in quotes, up to the closing one. Control characters must be
escaped, and surrogates come in pairs. -/
def readQuoted : Text → Option (Text × Text)
  | [] => none
  | '"' :: r => some ([], r)
  | '\\' :: 'u' :: a :: b :: c :: d :: r => do
      let n ← hexQuad? a b c d
      if 0xD800 ≤ n ∧ n < 0xE000 then
        match r with
        | '\\' :: 'u' :: e :: f :: g :: h :: r' =>
            let x ← ofSurrogates? n (← hexQuad? e f g h)
            let q ← readQuoted r'
            some (x :: q.1, q.2)
        | _ => none
      else
        let q ← readQuoted r
        some (Char.ofNat n :: q.1, q.2)
  | '\\' :: c :: r => do
      let x ← simpleEscape? c
      let q ← readQuoted r
      some (x :: q.1, q.2)
  | c :: r =>
      if c.toNat < 0x20 then none else (readQuoted r).map fun q => (c :: q.1, q.2)

def isSpace (c : Char) : Bool := c == ' ' || c == '\n' || c == '\t' || c == '\r'

def isNumberChar (c : Char) : Bool :=
  c.isDigit || c == '-' || c == '+' || c == '.' || c == 'e' || c == 'E'

/-- The token that a text starts with, and what follows it. -/
def token? : Text → Option (Token × Text)
  | [] => none
  | '[' :: r => some (.openArray, r)
  | ']' :: r => some (.closeArray, r)
  | '\x7b' :: r => some (.openObject, r)
  | '\x7d' :: r => some (.closeObject, r)
  | ',' :: r => some (.comma, r)
  | ':' :: r => some (.colon, r)
  | '"' :: r => (readQuoted r).map fun q => (.text q.1, q.2)
  | 'n' :: 'u' :: 'l' :: 'l' :: r => some (.null, r)
  | 't' :: 'r' :: 'u' :: 'e' :: r => some (.bool true, r)
  | 'f' :: 'a' :: 'l' :: 's' :: 'e' :: r => some (.bool false, r)
  | t => (Number.ofText? (t.takeWhile isNumberChar)).map fun n =>
      (.number n, t.dropWhile isNumberChar)

/-- The tokens of a text. Each takes at least one character, so the length bounds how many there
are. -/
def tokens : Nat → Text → Option (List Token)
  | 0, t => if (t.dropWhile isSpace).isEmpty then some [] else none
  | fuel + 1, t =>
      match t.dropWhile isSpace with
      | [] => some []
      | r => do
          let (k, rest) ← token? r
          return k :: (← tokens fuel rest)

/-- An array or object that is open: its items in reverse, or its fields and the key whose value
is being read. -/
inductive Frame
  | array (done : List Json)
  | object (done : Fields) (key : Text)

inductive Want
  | value
  | firstItem
  | firstKey (done : Fields)
  | key (done : Fields)
  | colon (done : Fields) (key : Text)
  | separator
  | nothing (result : Json)

structure Machine where
  frames : List Frame := []
  want : Want := .value

def nestingLimit : Nat := 127

namespace Machine

/-- Takes a value that is complete. -/
def put (frames : List Frame) (v : Json) : Machine :=
  match frames with
  | [] => { frames := [], want := .nothing v }
  | .array done :: outer => { frames := .array (v :: done) :: outer, want := .separator }
  | .object done key :: outer =>
      { frames := .object (setField key v done) key :: outer, want := .separator }

/-- Takes the first token of a value. -/
def begin (m : Machine) : Token → Option Machine
  | .null => some (put m.frames .null)
  | .bool b => some (put m.frames (.bool b))
  | .number n => some (put m.frames (.number n))
  | .text t => some (put m.frames (.text t))
  | .openArray =>
      if m.frames.length < nestingLimit then
        some { frames := .array [] :: m.frames, want := .firstItem }
      else none
  | .openObject =>
      if m.frames.length < nestingLimit then some { m with want := .firstKey [] } else none
  | _ => none

def step (m : Machine) (k : Token) : Option Machine :=
  match m.want, k with
  | .value, k => m.begin k
  | .firstItem, .closeArray =>
      match m.frames with
      | .array _ :: outer => some (put outer (.array []))
      | _ => none
  | .firstItem, k => m.begin k
  | .firstKey _, .closeObject => some (put m.frames (.object []))
  | .firstKey done, .text t => some { m with want := .colon done t }
  | .key done, .text t => some { m with want := .colon done t }
  | .colon done t, .colon => some { frames := .object done t :: m.frames, want := .value }
  | .separator, .comma =>
      match m.frames with
      | .array _ :: _ => some { m with want := .value }
      | .object done _ :: outer => some { frames := outer, want := .key done }
      | [] => none
  | .separator, .closeArray =>
      match m.frames with
      | .array done :: outer => some (put outer (.array done.reverse))
      | _ => none
  | .separator, .closeObject =>
      match m.frames with
      | .object done _ :: outer => some (put outer (.object done))
      | _ => none
  | _, _ => none

end Machine

/-- Reads a text that holds exactly one value. -/
def parse (t : Text) : Option Json := do
  let ks ← tokens t.length t
  let m ← ks.foldlM Machine.step {}
  match m.want with
  | .nothing v => return v
  | _ => none

end CopyFormat.Json
