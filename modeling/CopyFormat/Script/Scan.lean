import CopyFormat.Text.Basic

/-!
Looking for delimiters in a script.

A script is read as a row of marks: each character together with whether it is bare, that is,
outside quotes and no quote itself. Only bare characters delimit anything, so what stands in a
quoted text never counts. Places are counted in characters.
-/

namespace CopyFormat.Script

/-- A character of a script, and whether it can delimit something. -/
structure Mark where
  char : Char
  bare : Bool
  deriving DecidableEq, Repr

/-- Whether the mark is a bare `c`. -/
def Mark.is (m : Mark) (c : Char) : Bool := m.bare && m.char == c

/-- Whether a character opens a quoted text, which the same one closes. -/
def isQuote (c : Char) : Bool := c == '\'' || c == '"'

/-- The marks of a text that starts inside the given quotes. Inside quotes a backslash takes the
character behind it with it. -/
def marksIn : Option Char → Text → List Mark
  | _, [] => []
  | none, c :: r =>
      if isQuote c then ⟨c, false⟩ :: marksIn (some c) r else ⟨c, true⟩ :: marksIn none r
  | some q, '\\' :: d :: r => ⟨'\\', false⟩ :: ⟨d, false⟩ :: marksIn (some q) r
  | some q, c :: r => ⟨c, false⟩ :: marksIn (if c = q then none else some q) r

def marks (s : Text) : List Mark := marksIn none s

/-! ### The top level -/

/-- Whether a character opens or closes brackets. -/
def isBracket (c : Char) : Bool := c == '(' || c == '[' || c == ')' || c == ']'

/-- How many brackets are open behind a mark, when `depth` are open before it. A closing bracket
that closes nothing changes nothing. -/
def depthBehind (depth : Nat) (m : Mark) : Nat :=
  if m.is '(' || m.is '[' then depth + 1 else if m.is ')' || m.is ']' then depth - 1 else depth

/-- The marks with only those left bare that stand outside all brackets and are none. -/
def topOf (depth : Nat) : List Mark → List Mark
  | [] => []
  | m :: r => ⟨m.char, m.bare && depth == 0 && !isBracket m.char⟩ :: topOf (depthBehind depth m) r

/-- The marks of a script of which those at the top level are bare. -/
def topMarks (s : Text) : List Mark := topOf 0 (marks s)

/-- The place of the first `delimiter` at the top level. -/
def findTop (delimiter : Char) (s : Text) : Option Nat :=
  (topMarks s).findIdx? fun m => m.is delimiter

/-- The parts of a script between the delimiters at the top level. -/
def splitTop (delimiter : Char) (s : Text) : List Text :=
  (Text.stretches (fun m => m.is delimiter) (topMarks s)).map fun part => part.map Mark.char

/-- The first colon among marks that is not the answer to a question mark before it, of which
`pending` are still without an answer. -/
def colonAmong (pending : Nat) : List Mark → Option Nat
  | [] => none
  | m :: r =>
      if m.is '?' then (colonAmong (pending + 1) r).map (· + 1)
      else if m.is ':' then
        match pending with
        | 0 => some 0
        | p + 1 => (colonAmong p r).map (· + 1)
      else (colonAmong pending r).map (· + 1)

/-- The place of the colon between the two branches of a choice, given what stands behind its
question mark. -/
def branchColon (s : Text) : Option Nat := colonAmong 0 (topMarks s)

/-! ### Parentheses -/

/-- The first closing parenthesis among marks that leaves none open, when `depth` are open. -/
def closeAmong (depth : Nat) : List Mark → Option Nat
  | [] => none
  | m :: r =>
      if m.is '(' then (closeAmong (depth + 1) r).map (· + 1)
      else if m.is ')' then
        if depth ≤ 1 then some 0 else (closeAmong (depth - 1) r).map (· + 1)
      else (closeAmong depth r).map (· + 1)

/-- The place of the parenthesis that closes the one which a text starts with. -/
def matchingClose (s : Text) : Option Nat := closeAmong 0 (marks s)

/-- The place of the parenthesis that the last mark closes. `opened` holds the places of those
that are open, innermost first, and `place` is that of the first mark. -/
def openAmong (opened : List Nat) (place : Nat) : List Mark → Option Nat
  | [] => none
  | m :: r =>
      if m.is '(' then openAmong (place :: opened) (place + 1) r
      else if m.is ')' then
        if r.isEmpty then opened.head? else openAmong opened.tail (place + 1) r
      else openAmong opened (place + 1) r

/-- The place of the parenthesis that opens the group which a text ends with. -/
def trailingOpen (s : Text) : Option Nat := openAmong [] 0 (marks s)

/-! ### Quoted texts -/

/-- What a character behind a backslash stands for. -/
def escaped (c : Char) : Char :=
  match c with
  | 'n' => '\n'
  | 't' => '\t'
  | c => c

/-- Reads a text that the quote `q` has opened and that must be closed at the very end. -/
def unquoteBehind (q : Char) : Text → Option Text
  | [] => none
  | [c] => if c = q then some [] else none
  | '\\' :: c :: r => (unquoteBehind q r).map (escaped c :: ·)
  | c :: r => if c = q then none else (unquoteBehind q r).map (c :: ·)

/-- What a quoted text stands for; nothing may follow it. -/
def unquote? : Text → Option Text
  | [] => none
  | q :: r => if isQuote q then unquoteBehind q r else none

end CopyFormat.Script
