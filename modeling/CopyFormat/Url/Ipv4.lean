import CopyFormat.Text.Basic

/-!
IPv4 addresses. A host whose last label is a number is one, or nothing at all. Its numbers may be
octal with a leading `0` or hexadecimal with a leading `0x`, and the last of fewer than four
fills the remaining bytes.
-/

namespace CopyFormat.Url

/-- The number that a label of an address writes, which may be too great. -/
def ipv4Number? (t : Text) : Option Nat :=
  let (base, digits) : Nat × Text :=
    match t with
    | '0' :: 'x' :: r | '0' :: 'X' :: r => (16, r)
    | '0' :: c :: r => (8, c :: r)
    | r => (10, r)
  if t.isEmpty then none
  else if digits.all fun c => (Text.hexValue? c).any (· < base) then
    some (Text.numeral base digits)
  else none

/-- Whether the last label of a host, apart from an empty one behind a dot, is a number. -/
def endsInNumber (host : Text) : Bool :=
  let labels := (Text.splitOn host ['.']).reverse
  let last := match labels with
    | [] :: l :: _ => l
    | l :: _ => l
    | [] => []
  (!last.isEmpty && last.all Char.isDigit) || (ipv4Number? last).isSome

/-- The address that a host writes, as one number of 32 bits. -/
def ipv4? (host : Text) : Option Nat := do
  let labels := Text.splitOn host ['.']
  let labels := if labels.getLast? = some [] then labels.dropLast else labels
  if 4 < labels.length then none
  let numbers ← labels.mapM ipv4Number?
  let last ← numbers.getLast?
  let front := numbers.dropLast
  if front.any (255 < ·) || 1 <<< (8 * (4 - front.length)) ≤ last then none
  return front.zipIdx.foldl (fun n p => n + p.1 <<< (8 * (3 - p.2))) last

def ipv4Text (n : Nat) : Text :=
  Text.join ['.'] ([24, 16, 8, 0].map fun k => Text.ofNat ((n >>> k) % 256))

end CopyFormat.Url
