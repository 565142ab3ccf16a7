/-!
# Numeric host addresses

Addresses of four bytes, written as up to four numbers in decimal, octal or hexadecimal of which the
last fills all the bytes that are left; and addresses of eight pieces in hexadecimal, with at most
one run of zero pieces left out and the last two pieces perhaps written as four decimal bytes.
-/

namespace Provisioner.Url

/-- The parts of a list between the elements that satisfy `p`; at least one part. -/
def splitBy {α : Type} (p : α → Bool) : List α → List (List α)
  | [] => [[]]
  | a :: rest =>
    match splitBy p rest with
    | [] => [[a]]
    | part :: parts => if p a then [] :: part :: parts else (a :: part) :: parts

def isDecimal (c : Char) : Bool := '0' ≤ c && c ≤ '9'

/-- The value of a digit in a base of at most 16. -/
def digitIn? (base : Nat) (c : Char) : Option Nat :=
  let n :=
    if isDecimal c then some (c.toNat - 48)
    else if 'a' ≤ c && c ≤ 'f' then some (c.toNat - 87)
    else if 'A' ≤ c && c ≤ 'F' then some (c.toNat - 55)
    else none
  n.filter (· < base)

/-- The number that some digits write. -/
def numberIn? (base : Nat) (cs : List Char) : Option Nat :=
  cs.foldlM (fun n c => (digitIn? base c).map (base * n + ·)) 0

/-- A number with the mark of its base: `0x` for hexadecimal, `0` for octal. A mark alone is zero. -/
def markedNumber? : List Char → Option Nat
  | [] => none
  | '0' :: 'x' :: cs | '0' :: 'X' :: cs => numberIn? 16 cs
  | '0' :: c :: cs => numberIn? 8 (c :: cs)
  | cs => numberIn? 10 cs

/-- The dotted parts of a name; a dot at its end ends the last part. -/
def dottedParts (cs : List Char) : List (List Char) :=
  let parts := splitBy (· == '.') cs
  if parts.getLast? = some [] then parts.dropLast else parts

/-- Whether the last part of a name is a number, so that the name has to be an address. -/
def endsInNumber (cs : List Char) : Bool :=
  match (dottedParts cs).getLast? with
  | none | some [] => false
  | some part => part.all isDecimal || (markedNumber? part).isSome

/-- Whether a name writes an address of four bytes. -/
def isAddress4 (cs : List Char) : Bool :=
  match (dottedParts cs).mapM markedNumber? with
  | none => false
  | some numbers =>
    let leading := numbers.dropLast
    leading.length ≤ 3 && leading.all (· ≤ 255) &&
      numbers.getLast?.any (· < 1 <<< (8 * (4 - leading.length)))

/-- Whether some characters are four decimal bytes with dots between them, none with a leading
zero. -/
def isDecimalBytes (cs : List Char) : Bool :=
  let isByte (part : List Char) : Bool :=
    match part with
    | [] => false
    | ['0'] => true
    | '0' :: _ => false
    | part => part.all isDecimal && (numberIn? 10 part).any (· ≤ 255)
  let parts := splitBy (· == '.') cs
  parts.length == 4 && parts.all isByte

/-- The number of pieces that some colon-separated characters write: up to four hexadecimal digits
each, or two pieces for decimal bytes at the end. -/
def pieceCount? (mayEndInBytes : Bool) : List (List Char) → Option Nat
  | [] => some 0
  | [part] =>
    if part.length ≤ 4 && !part.isEmpty && part.all fun c => (digitIn? 16 c).isSome then some 1
    else if mayEndInBytes && isDecimalBytes part then some 2
    else none
  | part :: parts =>
    if part.length ≤ 4 && !part.isEmpty && part.all fun c => (digitIn? 16 c).isSome then
      (pieceCount? mayEndInBytes parts).map (· + 1)
    else none

/-- The characters before and after the first two colons in a row. -/
def splitAtGap : List Char → Option (List Char × List Char)
  | ':' :: ':' :: rest => some ([], rest)
  | c :: rest => (splitAtGap rest).map fun p => (c :: p.1, p.2)
  | [] => none

/-- The pieces of a side of the gap. -/
def sideCount? (mayEndInBytes : Bool) (cs : List Char) : Option Nat :=
  if cs.isEmpty then some 0 else pieceCount? mayEndInBytes (splitBy (· == ':') cs)

/-- Whether some characters write an address of eight pieces. -/
def isAddress6 (cs : List Char) : Bool :=
  match splitAtGap cs with
  | none => pieceCount? true (splitBy (· == ':') cs) == some 8
  | some (before, after) =>
    match sideCount? false before, sideCount? true after with
    | some m, some n => m + n ≤ 7
    | _, _ => false

end Provisioner.Url
