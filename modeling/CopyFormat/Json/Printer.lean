import CopyFormat.Decimal.Layout
import CopyFormat.Json.Value

/-!
Writing JSON: on one line, and spread over lines with two blanks for each level. Characters
outside ASCII stand as they are; control characters, quotes and backslashes are escaped.
-/

namespace CopyFormat.Json

def hexDigit (n : Nat) : Char := if n < 10 then Char.ofNat (0x30 + n) else Char.ofNat (0x57 + n)

/-- A character inside quotes. -/
def escapeChar (c : Char) : Text :=
  match c with
  | '"' => ['\\', '"']
  | '\\' => ['\\', '\\']
  | '\n' => ['\\', 'n']
  | '\r' => ['\\', 'r']
  | '\t' => ['\\', 't']
  | '\x08' => ['\\', 'b']
  | '\x0c' => ['\\', 'f']
  | c =>
      if c.toNat < 0x20 then
        ['\\', 'u', '0', '0', hexDigit (c.toNat / 16), hexDigit (c.toNat % 16)]
      else [c]

def quote (t : Text) : Text := '"' :: t.flatMap escapeChar ++ ['"']

def wholeText (n : Int) : Text :=
  if n < 0 then '-' :: Text.ofNat n.natAbs else Text.ofNat n.natAbs

def Number.print : Number → Text
  | .whole n => wholeText n
  | .real x => Decimal.storedLayout.number x

mutual

def compact : Json → Text
  | .null => Text.lit "null"
  | .bool b => Text.lit (if b then "true" else "false")
  | .number n => n.print
  | .text t => quote t
  | .array items => '[' :: compactItems items ++ [']']
  | .object fields => '\x7b' :: compactFields fields ++ ['\x7d']

def compactItems : List Json → Text
  | [] => []
  | [v] => compact v
  | v :: r => compact v ++ ',' :: compactItems r

def compactFields : List (Text × Json) → Text
  | [] => []
  | [(k, v)] => quote k ++ ':' :: compact v
  | (k, v) :: r => quote k ++ ':' :: compact v ++ ',' :: compactFields r

end

def breakLine (level : Nat) : Text := '\n' :: List.replicate (2 * level) ' '

mutual

/-- A value over several lines, whose inner lines are indented by `level + 1` steps. -/
def pretty (level : Nat) : Json → Text
  | .null => Text.lit "null"
  | .bool b => Text.lit (if b then "true" else "false")
  | .number n => n.print
  | .text t => quote t
  | .array [] => ['[', ']']
  | .array (v :: r) => '[' :: prettyItems level (v :: r) ++ breakLine level ++ [']']
  | .object [] => ['\x7b', '\x7d']
  | .object (p :: r) => '\x7b' :: prettyFields level (p :: r) ++ breakLine level ++ ['\x7d']

def prettyItems (level : Nat) : List Json → Text
  | [] => []
  | [v] => breakLine (level + 1) ++ pretty (level + 1) v
  | v :: r => breakLine (level + 1) ++ pretty (level + 1) v ++ ',' :: prettyItems level r

def prettyFields (level : Nat) : List (Text × Json) → Text
  | [] => []
  | [(k, v)] => breakLine (level + 1) ++ quote k ++ ':' :: ' ' :: pretty (level + 1) v
  | (k, v) :: r =>
      breakLine (level + 1) ++ quote k ++ ':' :: ' ' :: pretty (level + 1) v ++
        ',' :: prettyFields level r

end

end CopyFormat.Json
