/-!
# Binary floating point

Finite numbers of the 64-bit binary format as a sign, a significand and a power of two, with
rounding to nearest (a tie goes to the even significand) in exact arithmetic.
-/

namespace Provisioner.Decimal

/-- The number `± significand · 2 ^ exponent`. Every number has one form: the significand is below
`2 ^ 53`, and at least `2 ^ 52` unless the exponent is the least one, -1074. -/
structure Binary64 where
  negative : Bool
  significand : Nat
  exponent : Int
  deriving DecidableEq, Repr

namespace Binary64

def leastExponent : Int := -1074

def greatestExponent : Int := 971

instance : Inhabited Binary64 := ⟨⟨false, 0, leastExponent⟩⟩

def isZero (x : Binary64) : Bool := x.significand == 0

/-- The same number: zeros of either sign are one number. -/
def sameNumber (x y : Binary64) : Bool := x == y || (x.isZero && y.isZero)

/-- The quotient of two numbers rounded to the nearest integer, a tie to the even one. -/
def divideToNearest (n d : Nat) : Nat :=
  let q := n / d
  let r := n % d
  if 2 * r < d then q
  else if 2 * r = d then q + q % 2
  else q + 1

/-- The quotient `n / d` times `2 ^ -e`, rounded to an integer. -/
def scaledQuotient (n d : Nat) (e : Int) : Nat :=
  if 0 ≤ e then divideToNearest n (d * Nat.pow 2 e.toNat)
  else divideToNearest (n * Nat.pow 2 (-e).toNat) d

/-- The greatest power of two that is not above `n / d`, for positive `n` and `d`. -/
def binaryOrder (n d : Nat) : Int :=
  let guess : Int := (Nat.log2 n : Int) - (Nat.log2 d : Int)
  let fits := if 0 ≤ guess then d * Nat.pow 2 guess.toNat ≤ n else d ≤ n * Nat.pow 2 (-guess).toNat
  if fits then guess else guess - 1

/-- The number nearest to `± n / d`; none if that is past the greatest finite number. -/
def ofRatio (negative : Bool) (n d : Nat) : Option Binary64 :=
  if n = 0 then some ⟨negative, 0, leastExponent⟩
  else
    let e := max (binaryOrder n d - 52) leastExponent
    let m := scaledQuotient n d e
    let (m, e) := if m = Nat.pow 2 53 then (Nat.pow 2 52, e + 1) else (m, e)
    if e > greatestExponent then none else some ⟨negative, m, e⟩

def ofNat (n : Nat) : Option Binary64 := ofRatio false n 1

/-- The magnitude as a fraction. -/
def magnitude (x : Binary64) : Nat × Nat :=
  if 0 ≤ x.exponent then (x.significand * Nat.pow 2 x.exponent.toNat, 1)
  else (x.significand, Nat.pow 2 (-x.exponent).toNat)

def mul (x y : Binary64) : Option Binary64 :=
  let (n, d) := x.magnitude
  let (n', d') := y.magnitude
  ofRatio (x.negative != y.negative) (n * n') (d * d')

/-- The rounded quotient, for a divisor other than zero. -/
def div (x y : Binary64) : Option Binary64 :=
  let (n, d) := x.magnitude
  let (n', d') := y.magnitude
  ofRatio (x.negative != y.negative) (n * d') (d * n')

def negate (x : Binary64) : Binary64 := { x with negative := !x.negative }

theorem sameNumber_refl (x : Binary64) : x.sameNumber x = true := by simp [sameNumber]

end Binary64

end Provisioner.Decimal
