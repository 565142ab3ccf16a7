import Provisioner.Decimal.Binary64
import Provisioner.Dict

/-!
# JSON values

A value keeps the members of an object in the order they were given. `canonical` puts them in the
order of their names with the last of equal names winning, and every value the library stores or
compares is canonical. `same` is equality of canonical values up to the sign of a floating zero.
-/

namespace Provisioner

open Decimal (Binary64)

/-- A number is an integer or a binary fraction, and the two are never the same number. -/
inductive Number
  | int (n : Int)
  | float (x : Binary64)
  deriving DecidableEq

inductive Json
  | null
  | bool (b : Bool)
  | num (n : Number)
  | str (s : String)
  | arr (elements : List Json)
  | obj (members : List (String × Json))
  deriving Inhabited

/-- The same number: integers by value, fractions by value. -/
def Number.same : Number → Number → Bool
  | .int m, .int n => m == n
  | .float x, .float y => x.sameNumber y
  | _, _ => false

namespace Json

instance : Coe String Json := ⟨.str⟩
instance : Coe Bool Json := ⟨.bool⟩

def int (n : Int) : Json := .num (.int n)

/-- The members as they are looked up: in the order of their names, the last of equal names
winning. -/
def ofMembers (members : List (String × Json)) : Json := .obj (Dict.ofList members).entries

mutual

/-- The value with the members of every object in the order of their names, the last of equal
names winning. -/
def canonical : Json → Json
  | .arr elements => .arr (canonicalElements elements)
  | .obj members => ofMembers (canonicalMembers members)
  | v => v

def canonicalElements : List Json → List Json
  | [] => []
  | v :: rest => canonical v :: canonicalElements rest

def canonicalMembers : List (String × Json) → List (String × Json)
  | [] => []
  | (k, v) :: rest => (k, canonical v) :: canonicalMembers rest

end

mutual

/-- Whether two canonical values are the same. -/
def same : Json → Json → Bool
  | .null, .null => true
  | .bool a, .bool b => a == b
  | .num m, .num n => m.same n
  | .str s, .str t => s == t
  | .arr xs, .arr ys => sameElements xs ys
  | .obj xs, .obj ys => sameMembers xs ys
  | _, _ => false

def sameElements : List Json → List Json → Bool
  | [], [] => true
  | x :: xs, y :: ys => same x y && sameElements xs ys
  | _, _ => false

def sameMembers : List (String × Json) → List (String × Json) → Bool
  | [], [] => true
  | (j, x) :: xs, (k, y) :: ys => j == k && same x y && sameMembers xs ys
  | _, _ => false

end

/-- The member `name` of an object. -/
def member? (v : Json) (name : String) : Option Json :=
  match v with
  | .obj members => Dict.lookup name members
  | _ => none

/-- The object with the member `name` set to `value`; any other value stays. -/
def setMember (v : Json) (name : String) (value : Json) : Json :=
  match v with
  | .obj members => .obj (Dict.place name value members)
  | v => v

/-- A dictionary of texts as an object. -/
def ofTexts (d : Dict String String) : Json := .obj (d.map Json.str).entries

/-- An object of the members that are present. -/
def ofPresent (members : List (String × Option Json)) : Json :=
  ofMembers (members.filterMap fun m => m.2.map (m.1, ·))

mutual

theorem same_refl : ∀ v : Json, same v v = true
  | .null => rfl
  | .bool b => by simp [same]
  | .num (.int n) => by simp [same, Number.same]
  | .num (.float x) => by simp [same, Number.same, Binary64.sameNumber_refl]
  | .str s => by simp [same]
  | .arr xs => by simp [same, sameElements_refl xs]
  | .obj xs => by simp [same, sameMembers_refl xs]

theorem sameElements_refl : ∀ xs : List Json, sameElements xs xs = true
  | [] => rfl
  | x :: xs => by simp [sameElements, same_refl x, sameElements_refl xs]

theorem sameMembers_refl : ∀ xs : List (String × Json), sameMembers xs xs = true
  | [] => rfl
  | (k, x) :: xs => by simp [sameMembers, same_refl x, sameMembers_refl xs]

end

end Json

end Provisioner
