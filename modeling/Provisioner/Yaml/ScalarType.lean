import Provisioner.Decimal.Literal
import Provisioner.Yaml.Token

/-!
# What a scalar is taken for

A scalar stands for a text wherever a text is wanted. Where something else is wanted, a plain scalar
is reported as what it looks like: nothing, a truth value, an integer in one of four bases, a
fraction, or else a text; a tag may ask for one of these.
-/

namespace Provisioner.Yaml

/-- What a scalar is taken for, in the words of a message, or that it is not what its tag says. -/
inductive Taken
  | as (found : String)
  | notAs (found expected : String)

namespace ScalarType

def isNull (s : String) : Bool := ["null", "Null", "NULL", "~"].contains s

def truth? (s : String) : Option Bool :=
  if ["true", "True", "TRUE"].contains s then some true
  else if ["false", "False", "FALSE"].contains s then some false
  else none

/-- Zeros before other digits make a text of what looks like a number. -/
def hasLeadingZero (cs : List Char) : Bool :=
  let digits := match cs with
    | '-' :: rest => rest
    | '+' :: rest => rest
    | cs => cs
  match digits with
  | '0' :: c :: rest => (c :: rest).all Decimal.isDecimalDigit
  | _ => false

def digitValue? (base : Nat) (c : Char) : Option Nat :=
  let n :=
    if '0' ≤ c && c ≤ '9' then c.toNat - 48
    else if 'a' ≤ c && c ≤ 'z' then c.toNat - 87
    else if 'A' ≤ c && c ≤ 'Z' then c.toNat - 55
    else base
  if n < base then some n else none

/-- The number of digits in a base, of which there must be one. -/
def natural? (base : Nat) (cs : List Char) : Option Nat :=
  if cs.isEmpty then none
  else cs.foldlM (fun n c => (digitValue? base c).map (base * n + ·)) 0

/-- The digits after the mark of a base other than ten. -/
def based? (cs : List Char) : Option Nat :=
  match cs with
  | '0' :: 'x' :: rest => natural? 16 rest
  | '0' :: 'o' :: rest => natural? 8 rest
  | '0' :: 'b' :: rest => natural? 2 rest
  | _ => none

/-- The integer that a literal stands for. -/
def integer? (cs : List Char) : Option Int :=
  let plain (cs' : List Char) : Option Nat :=
    based? cs' <|> if hasLeadingZero cs then none else natural? 10 cs'
  match cs with
  | '-' :: rest => (plain rest).map fun n => -(n : Int)
  | '+' :: rest => (plain rest).map Int.ofNat
  | _ => (plain cs).map Int.ofNat

/-- An integer in the words of a message, as far as 128 bits hold it. -/
def integerText? (n : Int) : Option String :=
  let text := "integer `" ++ toString n ++ "`"
  if -0x8000000000000000 ≤ n ∧ n < 0x10000000000000000 then some text
  else if 0 ≤ n ∧ n < 0x100000000000000000000000000000000 then some (text ++ " as u128")
  else if -0x80000000000000000000000000000000 ≤ n ∧ n < 0 then some (text ++ " as i128")
  else none

/-- A fraction in the words of a message: in full, with a point. -/
def fractionText? (s : String) : Option String :=
  let named (unsigned : String) : Bool := [".inf", ".Inf", ".INF"].contains unsigned
  let text (s : String) : String := "floating point `" ++ s ++ "`"
  match s.toList with
  | '+' :: rest =>
    match rest with
    | '+' :: _ | '-' :: _ => none
    | _ =>
      if named (String.ofList rest) then some (text "inf")
      else (Decimal.literal? (String.ofList rest)).map fun x => text (Decimal.plainFormat.write x)
  | '-' :: rest =>
    if named (String.ofList rest) then some (text "-inf")
    else (Decimal.literal? s).map fun x => text (Decimal.plainFormat.write x)
  | _ =>
    if named s then some (text "inf")
    else if [".nan", ".NaN", ".NAN"].contains s then some (text "NaN")
    else (Decimal.literal? s).map fun x => text (Decimal.plainFormat.write x)

def boolText (b : Bool) : String := "boolean `" ++ (if b then "true" else "false") ++ "`"

def textText (s : String) : String := "string " ++ Text.quoted s

/-- What a scalar without a tag of its own is taken for. -/
def untagged (s : String) : String :=
  if s = "" || isNull s then "unit value"
  else
    match truth? s with
    | some b => boolText b
    | none =>
      match (integer? s.toList).bind integerText? with
      | some text => text
      | none =>
        match if hasLeadingZero s.toList then none else fractionText? s with
        | some text => text
        | none => textText s

/-- The tag of a standard type. -/
def standardTag (name : String) : String := "tag:yaml.org,2002:" ++ name

/-- What a scalar is taken for. -/
def taken (s : String) (style : Style) (tag : Option String) : Taken :=
  match tag with
  | none => .as (if style = .plain then untagged s else textText s)
  | some tag =>
    let orElse (found : Option String) (expected : String) : Taken :=
      match found with
      | some text => .as text
      | none => .notAs (textText s) expected
    if tag = standardTag "bool" then orElse ((truth? s).map boolText) "a boolean"
    else if tag = standardTag "int" then
      orElse ((integer? s.toList).bind integerText?) "an integer"
    else if tag = standardTag "float" then orElse (fractionText? s) "a float"
    else if tag = standardTag "null" then
      orElse (if isNull s then some "unit value" else none) "null"
    else if tag.startsWith "!" && style = .plain then .as (untagged s)
    else .as (textText s)

end ScalarType

end Provisioner.Yaml
