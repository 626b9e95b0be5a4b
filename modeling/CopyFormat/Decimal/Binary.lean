/-!
Floating-point numbers as exact binary fractions. A finite number is a sign, a mantissa and a
power of two, and everything exact about it is said in natural numbers.
-/

namespace CopyFormat.Decimal

/-- The positive number `mantissa * 2 ^ exponent`; `edge` says that the next smaller number lies
only half as far away as the next greater one. -/
structure Binary where
  mantissa : Nat
  exponent : Int
  edge : Bool
  deriving DecidableEq, Repr

inductive Kind
  | nan
  | infinite (negative : Bool)
  | zero (negative : Bool)
  | finite (negative : Bool) (magnitude : Binary)
  deriving DecidableEq, Repr

def minExponent : Int := -1074

/-- The weight of the sign among the bits. -/
def signUnit : Nat := 0x8000000000000000

/-- The weight of the exponent among the bits; also the leading bit of a full mantissa, which is
not written. -/
def hiddenBit : Nat := 0x10000000000000

/-- The bits of infinity. -/
def infinityBits : Nat := 2047 * hiddenBit

/-- Takes the bits of a floating-point number apart. -/
def kindOfBits (bits : Nat) : Kind :=
  let negative := bits / signUnit % 2 == 1
  let field := bits / hiddenBit % 2048
  let fraction := bits % hiddenBit
  if field == 2047 then if fraction == 0 then .infinite negative else .nan
  else if field == 0 then
    if fraction == 0 then .zero negative
    else .finite negative { mantissa := fraction, exponent := minExponent, edge := false }
  else
    .finite negative
      { mantissa := hiddenBit + fraction
        exponent := minExponent + (field - 1 : Nat)
        edge := fraction == 0 && 1 < field }

def kindOf (x : Float) : Kind := kindOfBits x.toBits.toNat

/-- A natural number to a power of a base that may be negative, as numerator and denominator. -/
def scale (n base : Nat) (power : Int) : Nat × Nat :=
  (n * base.pow power.toNat, base.pow (-power).toNat)

/-- The quotient rounded to the nearest natural number, a half to the even one. -/
def roundDiv (n d : Nat) : Nat :=
  let q := n / d
  let r := n % d
  if 2 * r < d then q else if d < 2 * r then q + 1 else if q % 2 == 0 then q else q + 1

/-- The bits of the positive floating-point number nearest to `n / d`; beyond the greatest
number that is infinity. -/
def bitsOfRatio (n d : Nat) : Nat :=
  if n == 0 then 0
  else
    let guess := (Nat.log2 n : Int) - Nat.log2 d - 53
    -- The guess is one too small when the quotient has 54 bits with it.
    let quotient := fun (e : Int) => (n <<< (-e).toNat, d <<< e.toNat)
    let fits := fun (e : Int) => let p := quotient e; p.1 / p.2 < 2 * hiddenBit
    let free := if fits guess then guess else guess + 1
    let e := max minExponent free
    let p := quotient e
    let m := roundDiv p.1 p.2
    let e' := if m == 2 * hiddenBit then e + 1 else e
    let m' := if m == 2 * hiddenBit then hiddenBit else m
    if m' < hiddenBit then m'
    else
      let field := (e' - minExponent + 1).toNat
      if 2047 ≤ field then infinityBits else field * hiddenBit + (m' - hiddenBit)

/-- The floating-point number nearest to `digits * 10 ^ exponent`. What lies far outside the
range is cut short without computing the power. -/
def nearest (digits : Nat) (exponent : Int) : Float :=
  let bits :=
    if digits == 0 then 0
    else if 400 < exponent then infinityBits
    else if exponent + Nat.log2 digits < -1200 then 0
    else
      let p := scale digits 10 exponent
      bitsOfRatio p.1 p.2
  Float.ofBits (UInt64.ofNat bits)

end CopyFormat.Decimal
