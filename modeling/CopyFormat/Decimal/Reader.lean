import CopyFormat.Decimal.Binary
import CopyFormat.Text.Basic

/-!
Reading decimals: digits with or without a point, then perhaps an exponent. `inf`, `infinity` and
`nan` are read too, in any case. The result is the nearest floating-point number.
-/

namespace CopyFormat.Decimal

def digitsOf (t : Text) : Text × Text := (t.takeWhile Char.isDigit, t.dropWhile Char.isDigit)

/-- A whole number with or without sign; there must be a digit. -/
def signed? (t : Text) : Option Int :=
  let (negative, body) : Bool × Text :=
    match t with
    | '-' :: r => (true, r)
    | '+' :: r => (false, r)
    | r => (false, r)
  if body.isEmpty || !body.all Char.isDigit then none
  else
    let n : Int := Text.numeral 10 body
    some (if negative then -n else n)

/-- The exponent that makes up a whole text, `0` when there is none. -/
def exponent? : Text → Option Int
  | [] => some 0
  | c :: r => if c = 'e' ∨ c = 'E' then signed? r else none

def unsigned? (t : Text) : Option Float :=
  let (whole, r) := digitsOf t
  let (fraction, r) :=
    match r with
    | '.' :: r' => digitsOf r'
    | r' => ([], r')
  if whole.isEmpty && fraction.isEmpty then none
  else
    let digits := Text.numeral 10 (whole ++ fraction)
    (exponent? r).map fun e => nearest digits (e - fraction.length)

/-- A number without sign that is not written in digits. -/
def special? (t : Text) : Option Float :=
  let t := t.map Char.toLower
  if t == Text.lit "inf" || t == Text.lit "infinity" then some (1 / 0)
  else if t == Text.lit "nan" then some (0 / 0)
  else none

/-- The floating-point number that a text writes. -/
def ofText? : Text → Option Float
  | '-' :: r => ((unsigned? r).or (special? r)).map fun x => -x
  | '+' :: r => (unsigned? r).or (special? r)
  | t => (unsigned? t).or (special? t)

end CopyFormat.Decimal
