import CopyFormat.Idna.Label

/-!
Domains: names of hosts, whose labels are separated by dots. A domain is told in its ASCII form.
-/

namespace CopyFormat.Idna

def isForbidden (c : Char) : Bool :=
  c.toNat ≤ 0x20 || c.toNat == 0x7F ||
    ['#', '%', '/', ':', '<', '>', '?', '@', '[', '\\', ']', '^', '|'].contains c

/-- The ASCII form of a domain, if it is valid. -/
def toAscii? (t : Text) : Option Text := do
  let mapped ← mapText? t
  let labels ← (Text.splitOn (Unicode.Normalization.composed mapped) ['.']).mapM Label.of?
  let rightToLeft := labels.any fun l => hasRightToLeft l.shown
  if rightToLeft && !labels.all (fun l => directionsFit l.shown) then
    none
  let domain := Text.join ['.'] (labels.map Label.ascii)
  if domain.any isForbidden then none else return domain

end CopyFormat.Idna
