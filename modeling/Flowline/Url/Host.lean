import Flowline.Url.Address
import Flowline.Url.Domain.Ascii

/-!
# Hosts

The host of a url with a well-known scheme is a domain name or an address. Domain names are written
in their ASCII forms. The host of any other url is kept as it is, with what is not ASCII
percent-encoded.

* `Host.ofDomain?`: the host of a url with a well-known scheme;
* `Host.ofOther?`: the host of any other url.
-/

namespace Flowline.Url.Host

/-- The characters that no host may hold. -/
def isForbidden (c : Char) : Bool :=
  "\x00\t\n\r #/:<>?@[\\]^|".toList.contains c

/-- The characters that no domain name may hold. -/
def isForbiddenInDomain (c : Char) : Bool :=
  isForbidden c || c == '%' || c.toNat < 0x20 || c.toNat == 0x7F

/-- What stands between brackets. -/
def inBrackets? (text : List Char) : Option (List Char) :=
  if text.getLast? = some ']' then some (text.drop 1).dropLast else none

/-- The host of a url with a well-known scheme. -/
def ofDomain? (text : List Char) : Option (List Char) :=
  if text.head? = some '[' then (inBrackets? text).bind Ipv6.parse?
  else do
    let domain ← percentDecode? text
    let ascii ← Domain.toAscii? domain
    if ascii.isEmpty ∨ ascii.any isForbiddenInDomain then none
    else if Ipv4.endsInNumber ascii then Ipv4.parse? ascii
    else some ascii

/-- The host of a url with any other scheme. -/
def ofOther? (text : List Char) : Option (List Char) :=
  if text.head? = some '[' then (inBrackets? text).bind Ipv6.parse?
  else if text.any isForbidden then none
  else some (percentEncode isControl text)

end Flowline.Url.Host
