import Provisioner.Idna.Label
import Provisioner.Text.Utf8
import Provisioner.Url.Address

/-!
# Domain names

The form in which the name of a host is compared: lower-case ASCII, with the labels that hold other
characters written in ASCII.
-/

namespace Provisioner.Url

/-- Characters that no name may hold: controls, the space, and what delimits the parts of a URL. -/
def isForbiddenInDomain (c : Char) : Bool :=
  c.toNat ≤ 0x20 || c.toNat == 0x7F || "%#/:<>?@[\\]^|".toList.contains c

/-- Whether a name in lower case is in ASCII and none of its labels says that it stands for a label
that is not. -/
def isPlain (cs : List Char) : Bool :=
  cs.all Idna.isAscii && (splitBy (· == '.') cs).all fun label => !Idna.asciiMark.isPrefixOf label

/-- The written labels of a name in canonical form. -/
def writtenLabels? (cs : List Char) : Option (List (List Char)) := do
  let labels ← (splitBy (· == '.') cs).mapM Idna.Label.of?
  if Idna.standTogether labels then some (labels.map (·.written)) else none

/-- The form of a name in lower-case ASCII. -/
def domainForm? (bytes : Text.Bytes) : Option String := do
  let name ← Text.ofUtf8? bytes
  let lower := name.toList.map Char.toLower
  let cs ← if isPlain lower then some lower else Idna.canonical? lower
  guard !cs.any isForbiddenInDomain
  if isPlain cs then return String.ofList cs
  let labels ← writtenLabels? cs
  return String.ofList (['.'].intercalate labels)

end Provisioner.Url
