import Provisioner.Text.Digit

/-!
# Quantities

The written form of an amount of a compute resource: an optional sign, a number with an optional
fraction, and an optional suffix, which is a power of ten or of two or a decimal exponent. The
digits may be those of any script.
-/

namespace Provisioner.Quantity

open Text (isDigit)

def isSign (c : Char) : Bool := c == '+' || c == '-'

/-- The characters after a sign, if there is one. -/
def afterSign : List Char → List Char
  | c :: rest => if isSign c then rest else c :: rest
  | [] => []

/-- What comes after the number at the front: digits, digits with a point and perhaps a fraction, or
a point and a fraction. -/
def afterNumber? (cs : List Char) : Option (List Char) :=
  let whole := cs.takeWhile isDigit
  match cs.dropWhile isDigit with
  | '.' :: rest =>
    if whole.isEmpty && (rest.takeWhile isDigit).isEmpty then none
    else some (rest.dropWhile isDigit)
  | rest => if whole.isEmpty then none else some rest

/-- The suffixes that are names of powers. -/
def powers : List (List Char) :=
  ["Ki", "Mi", "Gi", "Ti", "Pi", "Ei", "n", "u", "m", "k", "M", "G", "T", "P", "E"].map
    String.toList

/-- A decimal exponent: a letter, an optional sign and digits. -/
def isExponent : List Char → Bool
  | c :: rest =>
    let digits := afterSign rest
    (c == 'e' || c == 'E') && !digits.isEmpty && digits.all isDigit
  | [] => false

def isSuffix (cs : List Char) : Bool := cs.isEmpty || powers.contains cs || isExponent cs

/-- Whether a text is the written form of a quantity. -/
def isWritten (s : String) : Bool := (afterNumber? (afterSign s.toList)).any isSuffix

end Provisioner.Quantity
