/-!
# Blank characters

White space in every script, and text without the white space around it.
-/

namespace Provisioner.Text

/-- White space: controls used for layout, the spaces of every width, and the two separators. -/
def isBlank (c : Char) : Bool :=
  let n := c.toNat
  (0x09 ≤ n && n ≤ 0x0D) || n == 0x20 || n == 0x85 || n == 0xA0 || n == 0x1680 ||
    (0x2000 ≤ n && n ≤ 0x200A) || n == 0x2028 || n == 0x2029 || n == 0x202F || n == 0x205F ||
    n == 0x3000

/-- The characters without the blank ones at either end. -/
def trimChars (cs : List Char) : List Char :=
  ((cs.dropWhile isBlank).reverse.dropWhile isBlank).reverse

/-- The text without the white space around it. -/
def trim (s : String) : String := String.ofList (trimChars s.toList)

/-- A text with something in it other than white space. -/
def hasContent (s : String) : Bool := s.toList.any fun c => !isBlank c

end Provisioner.Text
