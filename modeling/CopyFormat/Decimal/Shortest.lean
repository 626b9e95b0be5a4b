import CopyFormat.Decimal.Binary

/-!
The shortest decimal that reads back as a given floating-point number, and of these the one
nearest to it.

A number stands for all reals that round to it, an interval around it. On the grid of decimals
with a given number of digits only the two neighbours of the number need to be looked at: if any
point of the grid lies in the interval, one of them does.
-/

namespace CopyFormat.Decimal

/-- The decimal `digits * 10 ^ exponent`. -/
structure Shortest where
  digits : Nat
  exponent : Int
  deriving DecidableEq, Repr

namespace Binary

/-- The number in quarters of its last place, as numerator and denominator, shifted by
`quarters`. -/
def shifted (b : Binary) (up down : Nat) : Nat × Nat :=
  scale (4 * b.mantissa + up - down) 2 (b.exponent - 2)

/-- The ends of the interval of reals that round to the number. -/
def lower (b : Binary) : Nat × Nat := b.shifted 0 (if b.edge then 1 else 2)

def upper (b : Binary) : Nat × Nat := b.shifted 2 0

def fractionLE (a b : Nat × Nat) : Bool := a.1 * b.2 ≤ b.1 * a.2

def fractionLT (a b : Nat × Nat) : Bool := a.1 * b.2 < b.1 * a.2

/-- Whether a fraction rounds to the number: the ends belong to it when the mantissa is even. -/
def accepts (b : Binary) (x : Nat × Nat) : Bool :=
  if b.mantissa % 2 == 0 then fractionLE b.lower x && fractionLE x b.upper
  else fractionLT b.lower x && fractionLT x b.upper

/-- The power of ten of the first digit. -/
def magnitude (b : Binary) : Int :=
  let value := b.shifted 0 0
  -- The logarithm of two, rounded down, is off by at most one.
  let guess := ((Nat.log2 b.mantissa : Int) + b.exponent) * 30103 / 100000
  if fractionLE (scale 1 10 (guess + 1)) value then guess + 1
  else if fractionLE (scale 1 10 guess) value then guess
  else guess - 1

/-- The nearer of two neighbours `k` and `k + 1` on the grid of `10 ^ e`, the even one of two
that are equally near. -/
def nearer (b : Binary) (k : Nat) (e : Int) : Nat :=
  let value := b.shifted 0 0
  let middle := scale (2 * k + 1) 10 e
  let doubled := (2 * value.1, value.2)
  if fractionLT doubled middle then k
  else if fractionLT middle doubled then k + 1
  else if k % 2 == 0 then k else k + 1

/-- The point with `count` digits that reads back, if there is one. -/
def onGrid? (b : Binary) (count : Nat) : Option Shortest :=
  let e := b.magnitude + 1 - count
  let value := b.shifted 0 0
  let unit := scale 1 10 e
  let k := value.1 * unit.2 / (value.2 * unit.1)
  let below := b.accepts (scale k 10 e)
  let above := b.accepts (scale (k + 1) 10 e)
  if below && above then some { digits := b.nearer k e, exponent := e }
  else if below then some { digits := k, exponent := e }
  else if above then some { digits := k + 1, exponent := e }
  else none

/-- The first grid that has a point, from `count` digits on. -/
def shortestFrom (b : Binary) : Nat → Nat → Shortest
  | 0, _ => { digits := b.mantissa, exponent := b.exponent }
  | fuel + 1, count => (b.onGrid? count).getD (b.shortestFrom fuel (count + 1))

/-- The shortest decimal; seventeen digits always suffice. -/
def shortest (b : Binary) : Shortest := b.shortestFrom 17 1

end Binary

/-- Trailing zeros moved from the digits into the exponent, at most `fuel` of them. -/
def Shortest.dropZeros : Nat → Shortest → Shortest
  | 0, s => s
  | fuel + 1, s =>
      if s.digits != 0 && s.digits % 10 == 0 then
        dropZeros fuel { digits := s.digits / 10, exponent := s.exponent + 1 }
      else s

end CopyFormat.Decimal
