import Provisioner.Decimal.Binary64

/-!
# The shortest decimal of a number

A binary number is written with the fewest decimal digits that read back as it; of two such
decimals the nearer one is taken, and the even one of two equally near.
-/

namespace Provisioner.Decimal

/-- The number `digits · 10 ^ exponent`. -/
structure Scientific where
  digits : Nat
  exponent : Int
  deriving DecidableEq, Repr

/-- The decimals that round to a positive number, scaled: those between `low` and `high` over
`unit`, the ends included if `closed`; `value` is the number itself. -/
structure Interval where
  low : Nat
  value : Nat
  high : Nat
  unit : Nat
  closed : Bool

/-- The decimals that round to `x`: half-way to each neighbour, where the lower neighbour of a power
of two is half as far as the upper one. -/
def Interval.of (x : Binary64) : Interval :=
  let m := x.significand
  let below := if m = Nat.pow 2 52 ∧ x.exponent ≠ Binary64.leastExponent then 1 else 2
  let (up, unit) :=
    if 0 ≤ x.exponent then (Nat.pow 2 x.exponent.toNat, 4)
    else (1, 4 * Nat.pow 2 (-x.exponent).toNat)
  ⟨(4 * m - below) * up, 4 * m * up, (4 * m + 2) * up, unit, m % 2 = 0⟩

/-- Whether the decimal `c · 10 ^ k` lies in the interval. -/
def Interval.contains (i : Interval) (c : Nat) (k : Int) : Bool :=
  let (c, u) :=
    if 0 ≤ k then (c * Nat.pow 10 k.toNat * i.unit, 1)
    else (c * i.unit, Nat.pow 10 (-k).toNat)
  if i.closed then i.low * u ≤ c && c ≤ i.high * u else i.low * u < c && c < i.high * u

/-- The power of ten just above `n / d`: the least `k` with `n / d < 10 ^ k`, looked for upwards
from `k` in `fuel` steps. -/
def decimalOrder : Nat → Nat → Nat → Int → Int
  | 0, _, _, k => k
  | fuel + 1, n, d, k =>
    let above := if 0 ≤ k then n < d * Nat.pow 10 k.toNat else n * Nat.pow 10 (-k).toNat < d
    if above then k else decimalOrder fuel n d (k + 1)

/-- The decimal on the grid of `10 ^ k` that rounds to the number, if there is one. -/
def Interval.onGrid? (i : Interval) (k : Int) : Option Nat :=
  let (n, d) :=
    if 0 ≤ k then (i.value, i.unit * Nat.pow 10 k.toNat)
    else (i.value * Nat.pow 10 (-k).toNat, i.unit)
  let c := n / d
  let r := n % d
  let downFits := i.contains c k
  let upFits := i.contains (c + 1) k
  match downFits, upFits with
  | true, true => some (if 2 * r < d ∨ (2 * r = d ∧ c % 2 = 0) then c else c + 1)
  | true, false => some c
  | false, true => some (c + 1)
  | false, false => none

/-- The first grid of at most `count` more digits that has a decimal in the interval. -/
def Interval.firstGrid (i : Interval) : Nat → Int → Scientific
  | 0, k => ⟨0, k⟩
  | count + 1, k =>
    match i.onGrid? k with
    | some c => ⟨c, k⟩
    | none => i.firstGrid count (k - 1)

/-- Moves factors of ten from the digits to the exponent. -/
def Scientific.strip : Nat → Scientific → Scientific
  | 0, s => s
  | fuel + 1, s =>
    if s.digits ≠ 0 ∧ s.digits % 10 = 0 then strip fuel ⟨s.digits / 10, s.exponent + 1⟩ else s

/-- The shortest decimal of the magnitude of a number. -/
def shortest (x : Binary64) : Scientific :=
  if x.isZero then ⟨0, 0⟩
  else
    let (n, d) := x.magnitude
    let guess : Int := ((Nat.log2 n : Int) - (Nat.log2 d : Int) - 1) * 30103 / 100000 - 1
    let k := decimalOrder 8 n d guess
    ((Interval.of x).firstGrid 18 (k - 1)).strip 18

/-- How a format writes a number from its digits. -/
structure FloatFormat where
  /-- The number is written without an exponent when the decimal point stands after more than this
  many digits, counted from the first digit other than zero. -/
  leastPoint : Int
  /-- The greatest position of the decimal point that is written without an exponent. -/
  greatestPoint : Int
  /-- The sign of an exponent that is not negative. -/
  exponentSign : String

/-- The text of a number: at least one digit after the point when there is no exponent. -/
def FloatFormat.write (f : FloatFormat) (x : Binary64) : String :=
  let sign := if x.negative then "-" else ""
  if x.isZero then sign ++ "0.0"
  else
    let s := shortest x
    let digits := (Nat.toDigits 10 s.digits)
    let length : Int := digits.length
    let point := length + s.exponent
    let zeros (n : Int) : String := String.ofList (List.replicate n.toNat '0')
    if f.leastPoint < point ∧ point ≤ f.greatestPoint then
      if 0 ≤ s.exponent then sign ++ String.ofList digits ++ zeros s.exponent ++ ".0"
      else if 0 < point then
        sign ++ String.ofList (digits.take point.toNat) ++ "." ++
          String.ofList (digits.drop point.toNat)
      else sign ++ "0." ++ zeros (-point) ++ String.ofList digits
    else
      let mark := if 0 < point then "e" ++ f.exponentSign else "e-"
      let power := toString (point - 1).natAbs
      match digits with
      | [d] => sign ++ d.toString ++ mark ++ power
      | d :: rest => sign ++ d.toString ++ "." ++ String.ofList rest ++ mark ++ power
      | [] => sign ++ mark ++ power

end Provisioner.Decimal
