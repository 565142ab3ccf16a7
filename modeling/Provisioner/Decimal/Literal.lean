import Provisioner.Decimal.Shortest

/-!
# Decimal literals

Reading a decimal literal as the nearest number, and writing a number without an exponent however
long that gets.
-/

namespace Provisioner.Decimal

def isDecimalDigit (c : Char) : Bool := '0' ≤ c && c ≤ '9'

def digitsValue (cs : List Char) : Nat := cs.foldl (fun n c => 10 * n + (c.toNat - 48)) 0

/-- An exponent: a sign, if any, and digits. -/
def exponent? (cs : List Char) : Option Int :=
  let value (cs : List Char) : Option Nat :=
    if !cs.isEmpty && cs.all isDecimalDigit then some (digitsValue cs) else none
  match cs with
  | '-' :: rest => (value rest).map fun n => -(n : Int)
  | '+' :: rest => (value rest).map Int.ofNat
  | _ => (value cs).map Int.ofNat

/-- The number `digits · 10 ^ exponent`, if it is finite. Exponents that put the number far outside
the range are cut short. -/
def ofScientific? (negative : Bool) (digits : Nat) (exponent : Int) : Option Binary64 :=
  let length : Int := (Nat.toDigits 10 digits).length
  if digits = 0 || length + exponent < -400 then some ⟨negative, 0, Binary64.leastExponent⟩
  else if length + exponent > 400 then none
  else if 0 ≤ exponent then Binary64.ofRatio negative (digits * Nat.pow 10 exponent.toNat) 1
  else Binary64.ofRatio negative digits (Nat.pow 10 (-exponent).toNat)

/-- An unsigned literal: digits with a point among, before or after them, and an exponent. -/
def unsignedLiteral? (negative : Bool) (cs : List Char) : Option Binary64 := do
  let whole := cs.takeWhile isDecimalDigit
  let rest := cs.drop whole.length
  let (fraction, rest) :=
    match rest with
    | '.' :: more => (more.takeWhile isDecimalDigit, more.dropWhile isDecimalDigit)
    | _ => ([], rest)
  if whole.isEmpty && fraction.isEmpty then failure
  let e ← match rest with
    | [] => some 0
    | c :: more => if c = 'e' || c = 'E' then exponent? more else none
  ofScientific? negative (digitsValue (whole ++ fraction)) (e - fraction.length)

/-- The finite number nearest to a literal with an optional sign. -/
def literal? (s : String) : Option Binary64 :=
  match s.toList with
  | '-' :: rest => unsignedLiteral? true rest
  | '+' :: rest => unsignedLiteral? false rest
  | cs => unsignedLiteral? false cs

/-- The shortest decimal of a number, in full. -/
def plainFormat : FloatFormat := ⟨-1000, 1000, ""⟩

end Provisioner.Decimal
