import Provisioner.Idna.Composition
import Provisioner.Idna.Direction
import Provisioner.Idna.Joining
import Provisioner.Idna.Mapping
import Provisioner.Idna.Punycode

/-!
# Labels of names

A label is what stands between two dots of a name. A label that holds other characters than those of
ASCII is written in ASCII behind the mark `xn--`, and a label may be given in either form.
-/

namespace Provisioner.Idna

def isAscii (c : Char) : Bool := c.toNat < 0x80

/-- The form in which texts are compared, none if some character may not be given. -/
def canonical? (cs : List Char) : Option (List Char) :=
  (cs.mapM mapped?).map fun replaced => composed replaced.flatten

/-- A label as it is shown and as it is written in ASCII. -/
structure Label where
  shown : List Char
  written : List Char
  deriving DecidableEq, Repr

/-- The longest label that is read, and the longest that is written, beside its mark. -/
def readLimit : Nat := 2000

def writeLimit : Nat := 1000

def asciiMark : List Char := "xn--".toList

/-- Whether a label that is shown with characters outside ASCII is well formed. -/
def isWellFormed (shown : List Char) : Bool := !shown.head?.any isMark && joinersStand [] shown

/-- What a label that is written behind its mark is shown as. It must be written that way for a
reason, and be in its canonical form. -/
def unmarked? (written : List Char) : Option (List Char) := do
  guard (written.all isAscii && written.length ≤ readLimit)
  let shown ← Punycode.decode? written
  guard (!shown.all isAscii && !asciiMark.isPrefixOf shown && isWellFormed shown)
  guard (canonical? shown = some shown)
  return shown

/-- The label that some characters in canonical form give. -/
def Label.of? (cs : List Char) : Option Label := do
  if asciiMark.isPrefixOf cs then
    let shown ← unmarked? (cs.drop asciiMark.length)
    return ⟨shown, cs⟩
  else if cs.all isAscii then return ⟨cs, cs⟩
  else
    guard (isWellFormed cs && cs.length ≤ writeLimit)
    return ⟨cs, asciiMark ++ Punycode.encode cs⟩

/-- Whether labels may stand in one name: if one of them is written from right to left, each of them
must keep to its direction. -/
def standTogether (labels : List Label) : Bool :=
  !labels.any (·.shown.any isRightward) || labels.all (keepsDirection ·.shown)

end Provisioner.Idna
