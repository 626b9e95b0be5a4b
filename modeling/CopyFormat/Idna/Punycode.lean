import CopyFormat.Text.Basic

/-!
Punycode: labels outside ASCII written in ASCII. The ASCII characters of a label come first, then
a hyphen, then the other characters and their places as numbers in base 36, whose digits have
weights that adapt to the label.
-/

namespace CopyFormat.Idna.Punycode

def digit (d : Nat) : Char := Char.ofNat (if d < 26 then 0x61 + d else 0x16 + d)

def digitValue? (c : Char) : Option Nat :=
  if 'a' ≤ c ∧ c ≤ 'z' then some (c.toNat - 0x61)
  else if 'A' ≤ c ∧ c ≤ 'Z' then some (c.toNat - 0x41)
  else if '0' ≤ c ∧ c ≤ '9' then some (c.toNat - 0x16)
  else none

/-- The least digit at a position that says that more digits follow. -/
def threshold (position bias : Nat) : Nat := max 1 (min 26 (position - bias))

theorem threshold_pos (position bias : Nat) : 1 ≤ threshold position bias := by
  unfold threshold; omega

/-- Divides a number until it is small, counting positions. -/
def settle (delta position : Nat) : Nat :=
  if 455 < delta then settle (delta / 35) (position + 36)
  else position + 36 * delta / (delta + 38)
termination_by delta
decreasing_by omega

/-- The bias behind a number, when `count` characters have been placed. -/
def adapt (delta count : Nat) (first : Bool) : Nat :=
  let d := if first then delta / 700 else delta / 2
  settle (d + d / count) 0

/-- The digits of a number, the first of which stands at `position`. -/
def digits (bias position n : Nat) : Text :=
  let t := threshold position bias
  if n < t then [digit n]
  else digit (t + (n - t) % (36 - t)) :: digits bias (position + 36) ((n - t) / (36 - t))
termination_by n
decreasing_by
  have h₁ := threshold_pos position bias
  have h₂ : (n - threshold position bias) / (36 - threshold position bias) ≤
    n - threshold position bias := Nat.div_le_self _ _
  omega

/-- How far a label is written: the digits so far, the number that is being counted, the bias, and
how many characters have been placed. -/
structure Writer where
  output : Text
  delta : Nat
  bias : Nat
  placed : Nat

/-- Passes a character while all characters with the code `code` are written. -/
def Writer.pass (basic code : Nat) (w : Writer) (c : Char) : Writer :=
  if c.toNat < code then { w with delta := w.delta + 1 }
  else if c.toNat = code then
    { output := w.output ++ digits w.bias 36 w.delta
      delta := 0
      bias := adapt w.delta (w.placed + 1) (w.placed == basic)
      placed := w.placed + 1 }
  else w

/-- Writes the characters of a label with the given codes, which ascend; `code` is the least that
is not written yet. -/
def Writer.run (label : Text) (basic : Nat) (w : Writer) (code : Nat) : List Nat → Writer
  | [] => w
  | next :: codes =>
      let w := { w with delta := w.delta + (next - code) * (w.placed + 1) }
      let w := label.foldl (Writer.pass basic next) w
      run label basic { w with delta := w.delta + 1 } (next + 1) codes

/-- The codes of the characters outside ASCII, ascending and each once. -/
def codes (label : Text) : List Nat :=
  ((label.filter fun c => 0x80 ≤ c.toNat).map Char.toNat).mergeSort.eraseDups

def encode (label : Text) : Text :=
  let basic := label.filter fun c => c.toNat < 0x80
  let start : Writer := { output := [], delta := 0, bias := 72, placed := basic.length }
  (if basic.isEmpty then [] else basic ++ ['-']) ++
    (start.run label basic.length 0x80 (codes label)).output

/-- The number that digits write, the first of which stands at `position`, and what follows it.
It must stay within 32 bits. -/
def number? (bias position weight sum : Nat) : Text → Option (Nat × Text)
  | [] => none
  | c :: r => do
      let d ← digitValue? c
      let sum := sum + d * weight
      if 0xFFFFFFFF < sum then none
      let t := threshold position bias
      if d < t then return (sum, r)
      number? bias (position + 36) (weight * (36 - t)) sum r

/-- Places the characters that digits write into a label. The number bounds how many there are. -/
def insertFrom : Nat → Text → Nat → Nat → Nat → Text → Option Text
  | _, label, _, _, _, [] => some label
  | 0, _, _, _, _, _ :: _ => none
  | fuel + 1, label, code, place, bias, r => do
      let (delta, r) ← number? bias 36 1 0 r
      let count := label.length + 1
      let bias := adapt delta count (place == 0)
      let code := code + (place + delta) / count
      let place := (place + delta) % count
      if !code.isValidChar then none
      let label := label.take place ++ Char.ofNat code :: label.drop place
      insertFrom fuel label code (place + 1) bias r

/-- The label that a label in ASCII stands for. -/
def decode? (t : Text) : Option Text :=
  let (basic, rest) : Text × Text :=
    match Text.lastIndex? '-' t with
    | some i => (t.take i, t.drop (i + 1))
    | none => ([], t)
  if basic.all fun c => c.toNat < 0x80 then insertFrom rest.length basic 0x80 0 72 rest else none

end CopyFormat.Idna.Punycode
