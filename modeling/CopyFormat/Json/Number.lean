import CopyFormat.Decimal.Binary
import CopyFormat.Json.Value

/-!
Reading JSON numbers.

A number without point and exponent that fits into 64 bits is whole. Any other is the product or
quotient of its significant digits and a power of ten, both as floating-point numbers, so that it
may differ in its last place from the decimal that is written. A number beyond all floating-point
numbers is refused.
-/

namespace CopyFormat.Json

/-- The greatest significand: 64 bits. -/
def maxSignificand : Nat := 0xFFFFFFFFFFFFFFFF

/-- The digits that fit into the significand, read behind those already read, and how many are
left over. -/
def takeSignificand (n : Nat) : Text → Nat × Nat
  | [] => (n, 0)
  | c :: r =>
      let next := n * 10 + (c.toNat - 0x30)
      if next ≤ maxSignificand then takeSignificand next r else (n, r.length + 1)

def powerOfTen (e : Nat) : Float := Decimal.nearest 1 e

def maxPower : Nat := 308

/-- `x` times a power of ten, which is divided out in steps of at most `maxPower`; none, if it is
too large. The number bounds the steps. -/
def scaleByTen : Nat → Float → Int → Option Float
  | 0, x, _ => some x
  | fuel + 1, x, e =>
      if e.natAbs ≤ maxPower then
        if 0 ≤ e then
          let y := x * powerOfTen e.natAbs
          if y.isInf then none else some y
        else some (x / powerOfTen e.natAbs)
      else if x == 0 then some x
      else if 0 ≤ e then none
      else scaleByTen fuel (x / powerOfTen maxPower) (e + maxPower)

/-- How many steps of division there can be: fewer leave nothing of any significand. -/
def scaleSteps : Nat := 16

/-- The parts of a written number: sign, whole digits, fraction and exponent. -/
structure Numeral where
  negative : Bool
  whole : Text
  fraction : Option Text
  exponent : Option (Bool × Text)

def takeDigits (t : Text) : Text × Text := (t.takeWhile Char.isDigit, t.dropWhile Char.isDigit)

/-- The fraction that the text starts with, if there is one. -/
def readFraction : Text → Option (Option Text × Text)
  | '.' :: r =>
      let q := takeDigits r
      if q.1.isEmpty then none else some (some q.1, q.2)
  | r => some (none, r)

/-- The exponent that the text starts with, if there is one; the flag says that it is
negative. -/
def readExponent : Text → Option (Option (Bool × Text) × Text)
  | [] => some (none, [])
  | c :: r =>
      if c = 'e' ∨ c = 'E' then
        let negative := r.head? == some '-'
        let body := if negative || r.head? == some '+' then r.drop 1 else r
        let q := takeDigits body
        if q.1.isEmpty then none else some (some (negative, q.1), q.2)
      else some (none, c :: r)

/-- Takes a whole text apart that is written as a number. -/
def Numeral.ofText? (t : Text) : Option Numeral := do
  let negative := t.head? == some '-'
  let (whole, r) := takeDigits (if negative then t.drop 1 else t)
  if whole.isEmpty || (whole.head? == some '0' && 1 < whole.length) then none
  let (fraction, r) ← readFraction r
  let (exponent, r) ← readExponent r
  if r.isEmpty then return { negative, whole, fraction, exponent } else none

def maxExponent : Nat := 0x7FFFFFFF

/-- The value of a numeral as a floating-point number, without its sign. Digits that no longer
fit into the significand count for nothing in the fraction, and as tens before it. -/
def Numeral.real? (n : Numeral) : Option Float :=
  let (s, unread) := takeSignificand 0 n.whole
  let (s, shift) : Nat × Int :=
    match n.fraction with
    | none => (s, unread)
    | some f =>
        if unread == 0 then
          let (s', unread') := takeSignificand s f
          (s', -(f.length - unread' : Nat))
        else
          let (s', unread') := takeSignificand s f
          (s', (unread : Int) - (f.length - unread' : Nat))
  let x := (UInt64.ofNat s).toFloat
  match n.exponent with
  | none => scaleByTen scaleSteps x shift
  | some (negative, digits) =>
      let e := Text.numeral 10 digits
      if maxExponent < e then if s != 0 && !negative then none else some 0
      else
        let total := if negative then shift - e else shift + e
        scaleByTen scaleSteps x total

/-- The number that a text writes. Minus zero is no whole number. -/
def Number.ofText? (t : Text) : Option Number := do
  let n ← Numeral.ofText? t
  let (s, unread) := takeSignificand 0 n.whole
  let signed := fun (x : Float) => Number.real (if n.negative then -x else x)
  if n.fraction.isSome || n.exponent.isSome || unread != 0 then return signed (← n.real?)
  else if !n.negative then return .whole s
  else if 1 ≤ s ∧ minWhole ≤ -(s : Int) then return .whole (-s)
  else return signed (UInt64.ofNat s).toFloat

end CopyFormat.Json
