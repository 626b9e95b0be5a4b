import CopyFormat.Idna.Domain
import CopyFormat.Url.Ipv4
import CopyFormat.Url.Ipv6
import CopyFormat.Url.Percent

/-!
Hosts. A host of a scheme that is known to have one is a domain or an address; a host of any other
scheme is an address in brackets, or a text that is kept as it is.
-/

namespace CopyFormat.Url

def bracketed? (t : Text) : Option Text :=
  if t.getLast? = some ']' then
    (ipv6? (t.drop 1).dropLast).map fun groups => '[' :: ipv6Text groups ++ [']']
  else none

/-- The form of a domain or address that is told. -/
def domainHost? (t : Text) : Option Text :=
  if t.head? = some '[' then bracketed? t
  else do
    let domain ← ofUtf8? (percentDecode t) >>= Idna.toAscii?
    if domain.isEmpty then none
    if endsInNumber domain then return ipv4Text (← ipv4? domain)
    return domain

def isForbiddenInHost (c : Char) : Bool :=
  ['\x00', '\t', '\n', '\r', ' ', '#', '/', ':', '<', '>', '?', '@', '[', '\\', ']', '^',
    '|'].contains c

/-- The form of a host that is kept as it is, which may be empty. -/
def plainHost? (t : Text) : Option Text :=
  if t.head? = some '[' then bracketed? t
  else if t.any isForbiddenInHost then none
  else some (percentEncode isControl t)

end CopyFormat.Url
