import Flowline.Text.Cut
import Flowline.Url.Domain.Label

/-!
# ASCII forms of domain names

The form in which domain names are compared and looked up. Characters are replaced by those they
count as, the name is normalized, and every label that is not ASCII is encoded. If a name has a
character written from right to left, each of its labels keeps to one direction.

* `Domain.toAscii?`.
-/

namespace Flowline.Url.Domain

/-- The normal form of a domain name, if it may hold its characters. -/
def normalForm? (domain : List Char) : Option (List Char) :=
  (domain.mapM replacement?).map fun texts => Character.normalize texts.flatten

/-- Whether labels, not in their ASCII forms, are a domain name. -/
def areSound (labels : List (List Char)) : Bool :=
  labels.all isWellFormed &&
    (!labels.any (·.any isRightToLeft) || labels.all keepsDirection)

/-- The ASCII form of a domain name. -/
def toAscii? (domain : List Char) : Option (List Char) := do
  let labels := pieces '.' (← normalForm? domain)
  let decoded ← labels.mapM decodeLabel?
  if areSound decoded then some (['.'].intercalate (labels.map encodeLabel)) else none

end Flowline.Url.Domain
