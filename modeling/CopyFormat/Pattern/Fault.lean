import CopyFormat.Text.Blank

/-!
What can be wrong with a regular expression, and the one-line reason that is told about it.
-/

namespace CopyFormat.Pattern

/-- A mistake in a regular expression, either in its form or in what it asks for. -/
inductive Fault
  | captureNameDuplicate
  | captureNameEmpty
  | captureNameInvalid
  | captureNameUnclosed
  | classEscapeInvalid
  | classRangeInvalid
  | classRangeLiteral
  | classUnclosed
  | decimalEmpty
  | decimalInvalid
  | escapeHexEmpty
  | escapeHexInvalid
  | escapeHexInvalidDigit
  | escapeUnfinished
  | escapeUnrecognized
  | flagDanglingNegation
  | flagDuplicate
  | flagRepeatedNegation
  | flagUnfinished
  | flagUnrecognized
  | groupUnclosed
  | groupUnopened
  | nestedTooDeep (limit : Nat)
  | repetitionCountInvalid
  | repetitionCountEmpty
  | repetitionCountUnclosed
  | repetitionMissing
  | wordBoundaryUnclosed
  | wordBoundaryUnrecognized
  | wordBoundaryUnfinished
  | propertyFormInvalid
  | backreference
  | lookAround
  | unicodeNotAllowed
  | invalidUtf8
  | propertyNotFound
  | propertyValueNotFound
  deriving DecidableEq, Repr

def Fault.message : Fault → Text
  | .captureNameDuplicate => Text.lit "duplicate capture group name"
  | .captureNameEmpty => Text.lit "empty capture group name"
  | .captureNameInvalid => Text.lit "invalid capture group character"
  | .captureNameUnclosed => Text.lit "unclosed capture group name"
  | .classEscapeInvalid => Text.lit "invalid escape sequence found in character class"
  | .classRangeInvalid =>
      Text.lit "invalid character class range, the start must be <= the end"
  | .classRangeLiteral => Text.lit "invalid range boundary, must be a literal"
  | .classUnclosed => Text.lit "unclosed character class"
  | .decimalEmpty => Text.lit "decimal literal empty"
  | .decimalInvalid => Text.lit "decimal literal invalid"
  | .escapeHexEmpty => Text.lit "hexadecimal literal empty"
  | .escapeHexInvalid => Text.lit "hexadecimal literal is not a Unicode scalar value"
  | .escapeHexInvalidDigit => Text.lit "invalid hexadecimal digit"
  | .escapeUnfinished =>
      Text.lit "incomplete escape sequence, reached end of pattern prematurely"
  | .escapeUnrecognized => Text.lit "unrecognized escape sequence"
  | .flagDanglingNegation => Text.lit "dangling flag negation operator"
  | .flagDuplicate => Text.lit "duplicate flag"
  | .flagRepeatedNegation => Text.lit "flag negation operator repeated"
  | .flagUnfinished => Text.lit "expected flag but got end of regex"
  | .flagUnrecognized => Text.lit "unrecognized flag"
  | .groupUnclosed => Text.lit "unclosed group"
  | .groupUnopened => Text.lit "unopened group"
  | .nestedTooDeep limit =>
      Text.lit "exceed the maximum number of nested parentheses/brackets (" ++
        Text.ofNat limit ++ [')']
  | .repetitionCountInvalid =>
      Text.lit "invalid repetition count range, the start must be <= the end"
  | .repetitionCountEmpty => Text.lit "repetition quantifier expects a valid decimal"
  | .repetitionCountUnclosed => Text.lit "unclosed counted repetition"
  | .repetitionMissing => Text.lit "repetition operator missing expression"
  | .wordBoundaryUnclosed =>
      Text.lit
        "special word boundary assertion is either unclosed or contains an invalid character"
  | .wordBoundaryUnrecognized =>
      Text.lit "unrecognized special word boundary assertion, valid choices are: " ++
        Text.lit "start, end, start-half or end-half"
  | .wordBoundaryUnfinished =>
      Text.lit "found either the beginning of a special word boundary or a bounded repetition " ++
        Text.lit "on a \\b with an opening brace, but no closing brace"
  | .propertyFormInvalid => Text.lit "invalid Unicode character class"
  | .backreference => Text.lit "backreferences are not supported"
  | .lookAround =>
      Text.lit "look-around, including look-ahead and look-behind, is not supported"
  | .unicodeNotAllowed => Text.lit "Unicode not allowed here"
  | .invalidUtf8 => Text.lit "pattern can match invalid UTF-8"
  | .propertyNotFound => Text.lit "Unicode property not found"
  | .propertyValueNotFound => Text.lit "Unicode property value not found"

def reasonMark : Text := Text.lit "error: "

/-- The lines of a report on a faulty pattern that hold text: a heading, the pattern and the
reason. A pattern of one line is shown as it is, a longer one with its lines numbered. The lines
of markers below the pattern are left out, since they hold nothing but blanks and carets. -/
def Fault.report (pattern : Text) (fault : Fault) : List Text :=
  let numbered := (Text.lines pattern).zipIdx.map fun p =>
    Text.ofNat (p.2 + 1) ++ Text.lit ": " ++ p.1
  let shown :=
    if pattern.contains '\n' then numbered else [Text.lit "    " ++ pattern]
  Text.lit "regex parse error:" :: shown ++ [reasonMark ++ fault.message]

/-- The reason that a report gives: the rest of its first line that is marked as the reason. A
pattern that starts like such a line speaks for itself. -/
def Fault.reason (pattern : Text) (fault : Fault) : Text :=
  ((fault.report pattern).findSome? fun l => Text.after? reasonMark (Text.trim l)).getD []

end CopyFormat.Pattern
