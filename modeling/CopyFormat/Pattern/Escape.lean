import CopyFormat.Pattern.Fault
import CopyFormat.Pattern.Syntax

/-!
Reading the parts of a regular expression that stand for one character or one place: escapes,
property expressions and the blanks that may stand between tokens.

In the spacing mode blanks and comments count for nothing. The readers take it as their first
argument; they get the text from their first character on and return what is left.
-/

namespace CopyFormat.Pattern

/-- The text without leading blanks and comments. The second flag says that a comment is open. -/
def dropSpacing : Bool → Text → Text
  | _, [] => []
  | true, c :: r => dropSpacing (c ≠ '\n') r
  | false, c :: r => if isBlank c then dropSpacing false r
      else if c = '#' then dropSpacing true r else c :: r

def skip (spacing : Bool) (t : Text) : Text := if spacing then dropSpacing false t else t

theorem length_dropSpacing_le (comment : Bool) (t : Text) :
    (dropSpacing comment t).length ≤ t.length := by
  induction t generalizing comment with
  | nil => simp [dropSpacing]
  | cons c r ih =>
      cases comment <;> simp only [dropSpacing]
      · split
        · exact Nat.le_succ_of_le (ih false)
        · split
          · exact Nat.le_succ_of_le (ih true)
          · exact Nat.le_refl _
      · exact Nat.le_succ_of_le (ih _)

theorem length_skip_le (spacing : Bool) (t : Text) : (skip spacing t).length ≤ t.length := by
  unfold skip
  split
  · exact length_dropSpacing_le false t
  · exact Nat.le_refl _

/-- The characters at the start that satisfy `p`, each with the spacing behind it, and the rest. -/
def takeSpaced (spacing : Bool) (p : Char → Bool) : Text → Text × Text
  | [] => ([], [])
  | c :: r =>
      if p c then
        let q := takeSpaced spacing p (skip spacing r)
        (c :: q.1, q.2)
      else ([], c :: r)
termination_by t => t.length
decreasing_by exact Nat.lt_succ_of_le (length_skip_le spacing r)

/-- What one token outside brackets, or one item inside them, can be. -/
inductive Primitive
  | literal (l : Literal)
  | assertion (a : Assertion)
  | short (negated : Bool) (c : ShortClass)
  | property (negated : Bool) (p : PropertyName)

/-- The characters that have a meaning of their own and can always be escaped. -/
def isMeta (c : Char) : Bool := "\\.+*?()|[]\x7b\x7d^$#&-~".toList.contains c

/-- The ASCII characters that may be escaped although they need not be: all but letters, digits
and angle brackets. -/
def isEscapable (c : Char) : Bool :=
  isMeta c || (c.toNat < 128 && !c.isAlphanum && c != '<' && c != '>')

def isHexDigit (c : Char) : Bool := (Text.hexValue? c).isSome

def charOfHex (digits : Text) : Except Fault Char :=
  let n := Text.numeral 16 digits
  if n.isValidChar then .ok (Char.ofNat n) else .error .escapeHexInvalid

/-- Reads a fixed number of hexadecimal digits. -/
def readHexDigits (spacing : Bool) : Nat → Text → Except Fault (Text × Text)
  | 0, t => .ok ([], t)
  | _ + 1, [] => .error .escapeUnfinished
  | k + 1, c :: r =>
      if isHexDigit c then
        (readHexDigits spacing k (skip spacing r)).map fun q => (c :: q.1, q.2)
      else .error .escapeHexInvalidDigit

/-- Reads what follows `\x`, `\u` or `\U`: digits in braces, or `width` digits. -/
def readHex (spacing : Bool) (width : Nat) (t : Text) : Except Fault (Primitive × Text) :=
  match skip spacing t with
  | [] => .error .escapeUnfinished
  | '\x7b' :: r =>
      let q := takeSpaced spacing isHexDigit (skip spacing r)
      match q.2 with
      | [] => .error .escapeUnfinished
      | '\x7d' :: rest =>
          if q.1.isEmpty then .error .escapeHexEmpty
          else (charOfHex q.1).map fun c => (.literal { char := c }, skip spacing rest)
      | _ => .error .escapeHexInvalidDigit
  | r =>
      match readHexDigits spacing width r with
      | .error e => .error e
      | .ok q => (charOfHex q.1).map fun c => (.literal { char := c, byte := width == 2 }, q.2)

/-- The property expression written between braces, and whether it is written as an inequality. -/
def propertyName (t : Text) : Bool × PropertyName :=
  match Text.cut? (Text.lit "!=") t with
  | some (p, v) => (true, .valued p v)
  | none =>
      match Text.cut? [':'] t with
      | some (p, v) => (false, .valued p v)
      | none =>
          match Text.cut? ['='] t with
          | some (p, v) => (false, .valued p v)
          | none => (false, .single t)

/-- Reads what follows `\p` or `\P`: one letter, or an expression in braces. -/
def readProperty (spacing negated : Bool) (t : Text) : Except Fault (Primitive × Text) :=
  match skip spacing t with
  | [] => .error .escapeUnfinished
  | '\x7b' :: r =>
      let q := takeSpaced spacing (· ≠ '\x7d') (skip spacing r)
      match q.2 with
      | [] => .error .escapeUnfinished
      | _ :: rest =>
          let p := propertyName q.1
          .ok (.property (negated != p.1) p.2, rest)
  | '\\' :: _ => .error .propertyFormInvalid
  | c :: r => .ok (.property negated (.single [c]), skip spacing r)

/-- Reads what follows `\b`: a boundary of a special kind in braces, if there is one. Braces that
hold no name are left for the repetition that they start. -/
def readWordBoundary (spacing : Bool) (t : Text) : Except Fault (Primitive × Text) :=
  let isNameChar := fun c : Char => c.isAlpha || c == '-'
  match t with
  | '\x7b' :: r =>
      match skip spacing r with
      | [] => .error .wordBoundaryUnfinished
      | c :: r' =>
          if isNameChar c then
            let q := takeSpaced spacing isNameChar (c :: r')
            match q.2 with
            | '\x7d' :: rest =>
                match String.ofList q.1 with
                | "start" => .ok (.assertion .wordStart, rest)
                | "end" => .ok (.assertion .wordEnd, rest)
                | "start-half" => .ok (.assertion .wordStartHalf, rest)
                | "end-half" => .ok (.assertion .wordEndHalf, rest)
                | _ => .error .wordBoundaryUnrecognized
            | _ => .error .wordBoundaryUnclosed
          else .ok (.assertion .wordBoundary, t)
  | _ => .ok (.assertion .wordBoundary, t)

def readEscape (spacing : Bool) : Text → Except Fault (Primitive × Text)
  | [] => .error .escapeUnfinished
  | c :: r =>
      let literal := fun c : Char => Except.ok (Primitive.literal { char := c }, r)
      if c.isDigit then .error .backreference
      else if isEscapable c then literal c
      else
        match c with
        | 'x' => readHex spacing 2 r
        | 'u' => readHex spacing 4 r
        | 'U' => readHex spacing 8 r
        | 'p' => readProperty spacing false r
        | 'P' => readProperty spacing true r
        | 'd' => .ok (.short false .digit, r)
        | 's' => .ok (.short false .space, r)
        | 'w' => .ok (.short false .word, r)
        | 'D' => .ok (.short true .digit, r)
        | 'S' => .ok (.short true .space, r)
        | 'W' => .ok (.short true .word, r)
        | 'a' => literal '\x07'
        | 'f' => literal '\x0c'
        | 't' => literal '\t'
        | 'n' => literal '\n'
        | 'r' => literal '\r'
        | 'v' => literal '\x0b'
        | 'A' => .ok (.assertion .textStart, r)
        | 'z' => .ok (.assertion .textEnd, r)
        | 'b' => readWordBoundary spacing r
        | 'B' => .ok (.assertion .noWordBoundary, r)
        | '<' => .ok (.assertion .wordStart, r)
        | '>' => .ok (.assertion .wordEnd, r)
        | _ => .error .escapeUnrecognized

end CopyFormat.Pattern
