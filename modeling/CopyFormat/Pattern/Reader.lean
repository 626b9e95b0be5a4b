import CopyFormat.Pattern.Brackets
import CopyFormat.Unicode.Word

/-!
Reading a regular expression into its tree.

The groups that are open are kept in a list of frames, innermost first. Every round of the loop
takes at least one character, so the length of the text bounds the number of rounds.
-/

namespace CopyFormat.Pattern

/-- What waits for the sequence that is being read: the sequence around an open group, or the
branches before a bar. -/
inductive GroupFrame
  | group (before : List Node) (kind : GroupKind) (spacing : Bool)
  | branches (done : List Node)

/-- What the reader remembers of the pattern so far: whether it is in the spacing mode, and the
number and the names of the capturing groups. -/
structure ReaderState where
  spacing : Bool := false
  captures : Nat := 0
  names : List Text := []

def isNameChar (first : Bool) (c : Char) : Bool :=
  if first then c == '_' || Unicode.Binary.alphabetic.contains c
  else c == '_' || c == '.' || c == '[' || c == ']' || Unicode.alphanumericSet.contains c

/-- Reads the name of a group up to its angle bracket. -/
def readName (names : List Text) (t : Text) : Except Fault (Text × Text) :=
  let name := t.takeWhile (· ≠ '>')
  let valid := name.zipIdx.all fun p => isNameChar (p.2 == 0) p.1
  match t.dropWhile (· ≠ '>') with
  | _ :: rest =>
      if !valid then .error .captureNameInvalid
      else if name.isEmpty then .error .captureNameEmpty
      else if names.contains name then .error .captureNameDuplicate
      else .ok (name, rest)
  | [] => .error (if valid then .captureNameUnclosed else .captureNameInvalid)

/-- Reads switches up to the colon or parenthesis that ends them, which is given back. The first
flag says that a hyphen was read, the second that it came last. -/
def readSwitches (found : SwitchSet) : Bool → Bool → Text →
    Except Fault (SwitchSet × Char × Text)
  | _, _, [] => .error .flagUnfinished
  | negated, dangling, c :: r =>
      if c = ':' ∨ c = ')' then
        if dangling then .error .flagDanglingNegation else .ok (found, c, r)
      else if c = '-' then
        if negated then .error .flagRepeatedNegation else readSwitches found true true r
      else
        match Switch.ofChar? c with
        | none => .error .flagUnrecognized
        | some f =>
            if found.mentions f then .error .flagDuplicate
            else
              let next : SwitchSet :=
                if negated then { found with off := found.off ++ [f] }
                else { found with on := found.on ++ [f] }
              readSwitches next negated false r

/-- What an opening parenthesis starts. -/
inductive Opening
  | group (kind : GroupKind)
  | switches (s : SwitchSet)

def looksAround (t : Text) : Bool :=
  ["?=", "?!", "?<=", "?<!"].any fun s => (Text.lit s).isPrefixOf t

/-- Reads what follows an opening parenthesis. -/
def readOpening (st : ReaderState) (t : Text) : Except Fault (Opening × ReaderState × Text) :=
  let r := skip st.spacing t
  let index := st.captures + 1
  if looksAround r then .error .lookAround
  else
    match Text.after? (Text.lit "?P<") r <|> Text.after? (Text.lit "?<") r with
    | some r' => do
        let (name, rest) ← readName st.names r'
        .ok (.group (.capture index (some name)),
          { st with captures := index, names := name :: st.names }, rest)
    | none =>
        match r with
        | ['?'] => .error .groupUnclosed
        | '?' :: r' => do
            let (s, ending, rest) ← readSwitches {} false false r'
            if ending = ':' then .ok (.group (.switches s), st, rest)
            else if s.isEmpty then .error .repetitionMissing
            else .ok (.switches s, st, rest)
        | _ => .ok (.group (.capture index none), { st with captures := index }, r)

def maxCount : Nat := 0xFFFFFFFF

/-- Reads a decimal between blanks. What is left is told also when there is none. -/
def readDecimal (spacing : Bool) (t : Text) : Except Fault Nat × Text :=
  let q := takeSpaced spacing Char.isDigit (t.dropWhile isBlank)
  let n := Text.numeral 10 q.1
  (if q.1.isEmpty then .error .repetitionCountEmpty
    else if n ≤ maxCount then .ok n else .error .decimalInvalid,
    q.2.dropWhile isBlank)

/-- The counts of a repetition in braces. -/
structure Counts where
  min : Nat
  max : Option Nat

def Counts.isValid (c : Counts) : Bool :=
  match c.max with
  | none => true
  | some m => c.min ≤ m

/-- Reads the counts of a repetition behind the opening brace, up to the closing one. -/
def readCounts (spacing : Bool) (t : Text) : Except Fault (Counts × Text) :=
  match skip spacing t with
  | [] => .error .repetitionCountUnclosed
  | r =>
      let (low, r₁) := readDecimal spacing r
      let close : Counts × Text → Except Fault (Counts × Text)
        | (c, '\x7d' :: rest) => .ok (c, rest)
        | _ => .error .repetitionCountUnclosed
      match r₁ with
      | [] => .error .repetitionCountUnclosed
      | ',' :: r₂ =>
          match skip spacing r₂ with
          | [] => .error .repetitionCountUnclosed
          | '\x7d' :: rest => do
              let min ← low
              .ok ({ min := min, max := none }, rest)
          | r₃ => do
              let min ← low
              let (high, r₄) := readDecimal spacing r₃
              let max ← high
              close ({ min := min, max := some max }, r₄)
      | r₂ => do
          let n ← low
          close ({ min := n, max := some n }, r₂)

/-- Whether the text starts with the mark of a reluctant repetition, and what follows. -/
def readReluctance : Text → Bool × Text
  | '?' :: r => (true, r)
  | r => (false, r)

/-- The part that a repetition repeats, which is the last one; the parts come in reverse. -/
def repeatable : List Node → Except Fault (Node × List Node)
  | [] => .error .repetitionMissing
  | .empty :: _ => .error .repetitionMissing
  | .setSwitches _ :: _ => .error .repetitionMissing
  | n :: parts => .ok (n, parts)

def Primitive.toNode : Primitive → Node
  | .literal l => .literal l
  | .assertion a => .assertion a
  | .short n c => .short n c
  | .property n p => .property n p

/-- Ends the group that is open innermost: the node for it, and what was around it. -/
def closeGroup (body : List Node) : List GroupFrame →
    Except Fault (List Node × Bool × List GroupFrame)
  | .group before kind spacing :: outer =>
      .ok (.group kind (.ofParts body.reverse) :: before, spacing, outer)
  | .branches done :: .group before kind spacing :: outer =>
      let all := (Node.ofParts body.reverse :: done).reverse
      .ok (.group kind (.ofBranches all) :: before, spacing, outer)
  | _ => .error .groupUnopened

def closePattern (body : List Node) : List GroupFrame → Except Fault Node
  | [] => .ok (.ofParts body.reverse)
  | [.branches done] => .ok (.ofBranches (Node.ofParts body.reverse :: done).reverse)
  | _ => .error .groupUnclosed

def closeBranch (body : List Node) : List GroupFrame → List GroupFrame
  | .branches done :: outer => .branches (.ofParts body.reverse :: done) :: outer
  | frames => .branches [.ofParts body.reverse] :: frames

/-- Reads on in a sequence, whose parts come in reverse. -/
def readParts : Nat → ReaderState → List GroupFrame → List Node → Text → Except Fault Node
  | 0, _, _, _, _ => .error .groupUnclosed
  | fuel + 1, st, frames, parts, t =>
      match skip st.spacing t with
      | [] => closePattern parts frames
      | '(' :: r => do
          match ← readOpening st r with
          | (.switches s, st', rest) =>
              let spacing := s.apply .spacing st'.spacing
              readParts fuel { st' with spacing } frames (.setSwitches s :: parts) rest
          | (.group kind, st', rest) =>
              let spacing :=
                match kind with
                | .switches s => s.apply .spacing st'.spacing
                | .capture _ _ => st'.spacing
              readParts fuel { st' with spacing }
                (.group parts kind st'.spacing :: frames) [] rest
      | ')' :: r => do
          let (parts', spacing, outer) ← closeGroup parts frames
          readParts fuel { st with spacing } outer parts' r
      | '|' :: r => readParts fuel st (closeBranch parts frames) [] r
      | '[' :: r => do
          let (n, rest) ← readClass st.spacing r
          readParts fuel st frames (n :: parts) rest
      | '\x7b' :: r => do
          let (n, before) ← repeatable parts
          let (counts, r') ← readCounts st.spacing r
          let (reluctant, rest) := readReluctance (skip st.spacing r')
          if counts.isValid then
            let whole := Node.repetition counts.min counts.max (!reluctant) n
            readParts fuel st frames (whole :: before) rest
          else .error .repetitionCountInvalid
      | '\\' :: r => do
          let (p, rest) ← readEscape st.spacing r
          readParts fuel st frames (p.toNode :: parts) rest
      | c :: r =>
          let uncounted := fun (min : Nat) (max : Option Nat) => do
            let (n, before) ← repeatable parts
            let (reluctant, rest) := readReluctance r
            readParts fuel st frames (.repetition min max (!reluctant) n :: before) rest
          match c with
          | '?' => uncounted 0 (some 1)
          | '*' => uncounted 0 none
          | '+' => uncounted 1 none
          | '.' => readParts fuel st frames (.dot :: parts) r
          | '^' => readParts fuel st frames (.assertion .lineStart :: parts) r
          | '$' => readParts fuel st frames (.assertion .lineEnd :: parts) r
          | _ => readParts fuel st frames (.literal { char := c } :: parts) r

def nestingLimit : Nat := 250

def Node.read (pattern : Text) : Except Fault Node := do
  let n ← readParts (pattern.length + 1) {} [] [] pattern
  if n.depth ≤ nestingLimit then .ok n else .error (.nestedTooDeep nestingLimit)

end CopyFormat.Pattern
