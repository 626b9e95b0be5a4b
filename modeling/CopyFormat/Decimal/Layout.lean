import CopyFormat.Decimal.Shortest
import CopyFormat.Text.Basic

/-!
How a decimal is laid out: with a point among its digits, or with a power of ten behind them.
Every decision is a field of one record, and the two formats of the program are two values of it.
-/

namespace CopyFormat.Decimal

/-- A way to write numbers. A number whose first digit stands at a power of ten between `least`
and `greatest` is written out, any other with an exponent. -/
structure Layout where
  least : Int
  greatest : Int
  /-- What is written behind a number without fraction. -/
  wholeEnding : Text
  /-- The sign of an exponent that is not negative. -/
  plus : Text
  zero : Text
  negativeZero : Text
  nan : Text
  infinity : Text

namespace Layout

/-- The digits with a point behind the first one. -/
def pointed : Text → Text
  | [] => []
  | [d] => [d]
  | d :: ds => d :: '.' :: ds

def exponentText (l : Layout) (e : Int) : Text :=
  if e < 0 then '-' :: Text.ofNat e.natAbs else l.plus ++ Text.ofNat e.natAbs

def writtenOut (l : Layout) (digits : Text) (exponent : Int) : Text :=
  if 0 ≤ exponent then digits ++ List.replicate exponent.toNat '0' ++ l.wholeEnding
  else
    let places := exponent.natAbs
    if places < digits.length then
      digits.take (digits.length - places) ++ '.' :: digits.drop (digits.length - places)
    else '0' :: '.' :: List.replicate (places - digits.length) '0' ++ digits

/-- A positive decimal. -/
def decimal (l : Layout) (s : Shortest) : Text :=
  let s := s.dropZeros 20
  let digits := Text.ofNat s.digits
  let first := s.exponent + digits.length - 1
  if l.least ≤ first ∧ first ≤ l.greatest then l.writtenOut digits s.exponent
  else pointed digits ++ 'e' :: l.exponentText first

def number (l : Layout) (x : Float) : Text :=
  match kindOf x with
  | .nan => l.nan
  | .infinite negative => if negative then '-' :: l.infinity else l.infinity
  | .zero negative => if negative then l.negativeZero else l.zero
  | .finite negative b =>
      let t := l.decimal b.shortest
      if negative then '-' :: t else t

end Layout

/-- Numbers as scripts show them: written out from a millionth up to below 10^21, whole numbers
without a point, and both zeros alike. -/
def scriptLayout : Layout :=
  { least := -6
    greatest := 20
    wholeEnding := []
    plus := ['+']
    zero := ['0']
    negativeZero := ['0']
    nan := Text.lit "NaN"
    infinity := Text.lit "Infinity" }

/-- Numbers as stored settings show them: written out from 10^-5 up to below 10^16, whole numbers
with a zero behind the point, so that they read back as fractions. -/
def storedLayout : Layout :=
  { least := -5
    greatest := 15
    wholeEnding := Text.lit ".0"
    plus := ['+']
    zero := Text.lit "0.0"
    negativeZero := Text.lit "-0.0"
    nan := Text.lit "null"
    infinity := Text.lit "null" }

end CopyFormat.Decimal
