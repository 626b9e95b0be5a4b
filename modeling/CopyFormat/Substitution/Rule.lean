import CopyFormat.Pattern.Compiled
import CopyFormat.Text.Offset

/-!
Search rules. A search text of the form `/body/flags` is a regular expression with flags; any
other text is searched for as it stands.
-/

namespace CopyFormat.Substitution

inductive PatternError
  | duplicateFlag (flag : Char)
  | compile (pattern reason : Text)
  deriving DecidableEq, Repr

def PatternError.message : PatternError → Text
  | .duplicateFlag flag => Text.lit "duplicate flag '" ++ [flag, '\'']
  | .compile pattern reason =>
      Text.lit "invalid pattern /" ++ pattern ++ Text.lit "/: " ++ reason

/-- The flags that a search text can carry. -/
def flagChars : List Char := ['g', 'i', 'm', 's', 'u', 'y']

/-- The body and the flags of a text `/body/flags`. The flags stand behind the last slash;
neither they nor the body are empty. -/
def slashForm? : Text → Option (Text × Text)
  | '/' :: r =>
      let flags := (r.reverse.takeWhile (· ≠ '/')).reverse
      let body := ((r.reverse.dropWhile (· ≠ '/')).drop 1).reverse
      if !body.isEmpty && !flags.isEmpty && flags.all flagChars.contains then some (body, flags)
      else none
  | _ => none

/-- The first flag that repeats an earlier one. -/
def repeatedFlag? (seen : List Char) : Text → Option Char
  | [] => none
  | c :: r => if seen.contains c then some c else repeatedFlag? (c :: seen) r

/-- A place where a rule matches: its ends, and where each group starts and ends. Group 0 is the
whole match. -/
structure Match where
  start : Nat
  stop : Nat
  groups : List (Option (Nat × Nat))
  deriving DecidableEq, Repr

/-- A text that is searched for as it stands, with the pattern that it is searched for with. -/
structure Needle where
  text : Text
  compiled : Pattern
  compiles : ∃ room, Pattern.compile room {} (Pattern.escape text) = .ok compiled

instance : Coe Needle Text := ⟨Needle.text⟩

/-- A search rule. A literal applies to every occurrence. -/
inductive Rule
  | pattern (body : Text) (compiled : Pattern) (global sticky : Bool)
  | literal (needle : Needle)

/-- The modes that flags ask for. The flag `u` changes nothing: matching always knows Unicode. -/
def modesOf (flags : Text) : Pattern.Modes :=
  { ignoreCase := flags.contains 'i'
    multiLine := flags.contains 'm'
    dotAll := flags.contains 's' }

/-- The rule of a search text. How much room the program of a pattern takes is up to `room`. -/
def Rule.parse (search : Text) (room : Pattern.Expr → Nat := Pattern.Expr.estimatedRoom) :
    Except PatternError Rule :=
  match slashForm? search with
  | none =>
      match h : Pattern.compile room {} (Pattern.escape search) with
      | .error e => .error (.compile search (e.reason (Pattern.escape search)))
      | .ok p => .ok (.literal ⟨search, p, room, h⟩)
  | some (body, flags) =>
      match repeatedFlag? [] flags with
      | some c => .error (.duplicateFlag c)
      | none =>
          match Pattern.compile room (modesOf flags) body with
          | .error e => .error (.compile body (e.reason body))
          | .ok p => .ok (.pattern body p (flags.contains 'g') (flags.contains 'y'))

/-- Whether the rule applies to every match or to the first only. -/
def Rule.isGlobal : Rule → Bool
  | .pattern _ _ global _ => global
  | .literal _ => true

/-- Whether a match must start where the one before it ended. -/
def Rule.isSticky : Rule → Bool
  | .pattern _ _ _ sticky => sticky
  | .literal _ => false

/-- What the rule searches with. -/
def Rule.compiled : Rule → Pattern
  | .pattern _ p _ _ => p
  | .literal needle => needle.compiled

/-- The names of the groups; group 0 has none. -/
def Rule.groups (r : Rule) : List (Option Text) := r.compiled.groups

/-- The first match of the rule at or behind a place of the text, all counted in characters. -/
def Rule.locate (r : Rule) (t : Text) (start : Nat) : Option Match := do
  let groups ← r.compiled.program.search t start
  let (first, last) ← groups.head?.join
  return { start := first, stop := last, groups }

/-- A match that is counted in characters, counted in bytes. -/
def Match.inBytes (t : Text) (m : Match) : Match :=
  let offset := fun i => Text.size (t.take i)
  { start := offset m.start
    stop := offset m.stop
    groups := m.groups.map fun g => g.map fun p => (offset p.1, offset p.2) }

/-- The first match of the rule at or behind a place of the text, all counted in bytes. -/
def Rule.find (r : Rule) (t : Text) (start : Nat) : Option Match := do
  let before ← Text.before? start t
  (r.locate t before.length).map (Match.inBytes t)

end CopyFormat.Substitution
