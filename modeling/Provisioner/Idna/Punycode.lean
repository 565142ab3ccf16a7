/-!
# Labels written in ASCII

Punycode writes a label as its ASCII characters followed by one number for every other character. A
number counts the steps from the place and code point of one such character to those of the next, in
increasing order of code points. Numbers are of variable length in base 36, least digit first, and
the digits at which a number may end adapt to the numbers before it.
-/

namespace Provisioner.Idna.Punycode

def base : Nat := 36

/-- A digit below the threshold is the last of its number. -/
def threshold (bias place : Nat) : Nat := max 1 (min 26 (place - bias))

theorem threshold_bounds (bias place : Nat) :
    1 ≤ threshold bias place ∧ threshold bias place ≤ 26 := by
  unfold threshold
  omega

/-- How often a number has to be divided to be small, in places, and what is left of it. -/
def scaled (places delta : Nat) : Nat × Nat :=
  if 455 < delta then scaled (places + base) (delta / 35) else (places, delta)
termination_by delta
decreasing_by omega

/-- The bias after a number, when there are `count` characters with the one it has placed. -/
def adapted (delta count : Nat) (isFirst : Bool) : Nat :=
  let delta := if isFirst then delta / 700 else delta / 2
  let (places, small) := scaled 0 (delta + delta / count)
  places + base * small / (small + 38)

def initialBias : Nat := 72

/-- The first code point that is written as a number. -/
def initialCodePoint : Nat := 128

/-! ### Reading -/

def digit? (c : Char) : Option Nat :=
  if 'a' ≤ c && c ≤ 'z' then some (c.toNat - 97)
  else if '0' ≤ c && c ≤ '9' then some (c.toNat - 22)
  else none

/-- What has been read: the characters so far, the place and code point that the next number counts
from, and the number as far as its digits have been seen. -/
structure Reading where
  chars : List Char
  place : Nat := 0
  codePoint : Nat := initialCodePoint
  bias : Nat := initialBias
  delta : Nat := 0
  weight : Nat := 1
  digitPlace : Nat := base
  deriving DecidableEq, Repr

/-- Places the character that a whole number leads to. -/
def Reading.insert? (r : Reading) (delta : Nat) : Option Reading :=
  let count := r.chars.length + 1
  let steps := r.place + delta
  let codePoint := r.codePoint + steps / count
  if codePoint.isValidChar then
    some {
      chars := r.chars.insertIdx (steps % count) (Char.ofNat codePoint)
      place := steps % count + 1
      codePoint := codePoint
      bias := adapted delta count (r.place = 0)
    }
  else none

/-- One more digit. The weight of a digit is a number of 32 bits. -/
def Reading.next? (r : Reading) (c : Char) : Option Reading := do
  let digit ← digit? c
  let delta := r.delta + digit * r.weight
  let threshold := threshold r.bias r.digitPlace
  if digit < threshold then r.insert? delta
  else
    let weight := r.weight * (base - threshold)
    if weight < 0x100000000 then
      some { r with delta := delta, weight := weight, digitPlace := r.digitPlace + base }
    else none

/-- The ASCII characters of a written label and its digits, which the last hyphen parts. A hyphen
that nothing comes before does not count. -/
def parted (cs : List Char) : List Char × List Char :=
  let digits := (cs.reverse.takeWhile (· ≠ '-')).reverse
  let chars := cs.take (cs.length - digits.length - 1)
  if chars.isEmpty then ([], cs) else (chars, digits)

/-- The label that some characters write. -/
def decode? (cs : List Char) : Option (List Char) := do
  let (chars, digits) := parted cs
  let r ← digits.foldlM Reading.next? { chars := chars }
  if r.digitPlace = base then some r.chars else none

/-! ### Writing -/

def digit (n : Nat) : Char := Char.ofNat (if n < 26 then n + 97 else n + 22)

/-- The digits of a number. -/
def digits (bias place n : Nat) : List Char :=
  let t := threshold bias place
  if n < t then [digit n]
  else digit (t + (n - t) % (base - t)) :: digits bias (place + base) ((n - t) / (base - t))
termination_by n
decreasing_by
  have := threshold_bounds bias place
  refine Nat.lt_of_le_of_lt (Nat.div_le_self _ _) ?_
  omega

/-- What has been written: the digits, and how many characters the label has as far as it can be read
back from them. -/
structure Writing where
  digits : List Char := []
  count : Nat
  delta : Nat := 0
  bias : Nat := initialBias
  isFirst : Bool := true
  deriving DecidableEq, Repr

/-- Passes a character of the label while the characters with `codePoint` are written. -/
def Writing.pass (codePoint : Nat) (w : Writing) (c : Char) : Writing :=
  if c.toNat < codePoint then { w with delta := w.delta + 1 }
  else if c.toNat = codePoint then
    { digits := w.digits ++ Punycode.digits w.bias base w.delta
      count := w.count + 1
      bias := adapted w.delta (w.count + 1) w.isFirst
      isFirst := false }
  else w

/-- Writes the characters with one code point after those with the code points from `previous` on. -/
def Writing.write (cs : List Char) (previous : Nat × Writing) (codePoint : Nat) : Nat × Writing :=
  let (next, w) := previous
  let w := { w with delta := w.delta + (codePoint - next) * (w.count + 1) }
  let w := cs.foldl (pass codePoint) w
  (codePoint + 1, { w with delta := w.delta + 1 })

/-- The ASCII form of a label. -/
def encode (cs : List Char) : List Char :=
  let ascii := cs.filter (·.toNat < initialCodePoint)
  let codePoints := ((cs.map Char.toNat).filter (initialCodePoint ≤ ·)).mergeSort.eraseDups
  let (_, w) := codePoints.foldl (Writing.write cs) (initialCodePoint, { count := ascii.length })
  (if ascii.isEmpty then [] else ascii ++ ['-']) ++ w.digits

end Provisioner.Idna.Punycode
