import CopyFormat.Text.Basic

/-!
IPv6 addresses: eight groups of 16 bits, between colons, each in hexadecimal. A double colon
stands for at least one group of zeros, and the last two groups can be written as an IPv4
address.
-/

namespace CopyFormat.Url

/-- A group of one to four hexadecimal digits. -/
def ipv6Group? (t : Text) : Option Nat :=
  if 1 ≤ t.length ∧ t.length ≤ 4 ∧ t.all fun c => (Text.hexValue? c).isSome then
    some (Text.numeral 16 t)
  else none

/-- A number up to 255 without leading zeros. -/
def decimalByte? (t : Text) : Option Nat :=
  if t.isEmpty || !t.all Char.isDigit || (t.head? == some '0' && 1 < t.length) then none
  else
    let n := Text.numeral 10 t
    if n ≤ 255 then some n else none

/-- The two groups that an embedded IPv4 address stands for. -/
def embeddedIpv4? (t : Text) : Option (List Nat) := do
  match ← (Text.splitOn t ['.']).mapM decimalByte? with
  | [a, b, c, d] => some [a * 256 + b, c * 256 + d]
  | _ => none

/-- The groups of a part that is not empty. The last one may be an IPv4 address if `ending`. -/
def ipv6Groups? (ending : Bool) (t : Text) : Option (List Nat) := do
  let parts := Text.splitOn t [':']
  let front ← parts.dropLast.mapM ipv6Group?
  let last ← parts.getLast?
  if ending && last.contains '.' then return front ++ (← embeddedIpv4? last)
  return front ++ [← ipv6Group? last]

/-- The same for a part that may be empty. -/
def ipv6Part? (ending : Bool) (t : Text) : Option (List Nat) :=
  if t.isEmpty then some [] else ipv6Groups? ending t

/-- The eight groups of an address. -/
def ipv6? (t : Text) : Option (List Nat) :=
  match Text.cut? [':', ':'] t with
  | none => do
      let groups ← ipv6Groups? true t
      if groups.length = 8 then return groups else none
  | some (before, behind) => do
      let front ← ipv6Part? false before
      let back ← ipv6Part? true behind
      if front.length + back.length ≤ 7 then
        return front ++ List.replicate (8 - front.length - back.length) 0 ++ back
      else none

def leadingZeros (l : List Nat) : Nat := (l.takeWhile (· == 0)).length

/-- The first of the longest rows of zeros, as its place and length. -/
def longestZeros (place : Nat) : List Nat → Nat × Nat
  | [] => (place, 0)
  | g :: r =>
      let here := leadingZeros (g :: r)
      let later := longestZeros (place + 1) r
      if later.2 ≤ here then (place, here) else later

def groupsText (groups : List Nat) : Text :=
  Text.join [':'] (groups.map fun g => Nat.toDigits 16 g)

/-- An address in its shortest form: the first of the longest rows of at least two groups of zeros
is written as a double colon. -/
def ipv6Text (groups : List Nat) : Text :=
  let (place, length) := longestZeros 0 groups
  if length < 2 then groupsText groups
  else
    groupsText (groups.take place) ++ ':' :: ':' :: groupsText (groups.drop (place + length))

end CopyFormat.Url
